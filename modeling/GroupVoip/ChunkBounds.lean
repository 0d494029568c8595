import GroupVoip.ChunkStream

/-!
# What a connection can hold

A packet fits into the buffer that the encoder takes for it.  The decoder
keeps only so much of what arrives, whatever that is: less than a chunk of the
largest packet, and less than the largest packet for each channel.
-/

namespace GroupVoip

namespace RTMP

open Library.WireBytes Library.Restarting

variable {amf : UInt8 → Int → Bytes → Bool}

/-! ## The buffer of a packet -/

theorem length_putExtended_le (extended : Bool) (value : UInt32) :
    (if extended then putInt value else []).length ≤ 4 := by
  cases extended <;> simp

theorem length_encodeFields_le (header lastHeader : Header)
    (headerType : HeaderType) :
    (encodeFields header lastHeader headerType).1.length ≤ 15 := by
  cases headerType with
  | HEADER_NEW =>
      have extended :=
        length_putExtended_le (isExtended header.getTimer) header.getTimer
      simp only [encodeFields, encodeNew, List.length_append,
        length_writeTimer, length_writeMediumInt, length_writeReverseInt,
        List.length_singleton]
      omega
  | HEADER_SAME_SOURCE =>
      have extended := length_putExtended_le
        (isExtended (timerSince header lastHeader))
        (timerSince header lastHeader)
      simp only [encodeFields, List.length_append, length_writeTimer,
        length_writeMediumInt, List.length_singleton]
      omega
  | HEADER_TIMER_CHANGE =>
      have extended := length_putExtended_le
        (isExtended (timerSince header lastHeader))
        (timerSince header lastHeader)
      simp only [encodeFields, List.length_append, length_writeTimer]
      omega
  | HEADER_CONTINUE =>
      simp only [encodeFields]
      split_ifs <;> simp

theorem length_continuation_le (header : Header) :
    (continuation header).length ≤ 7 := by
  have basic :=
    length_encodeHeaderByte_le .HEADER_CONTINUE header.channelId
  rw [continuation, List.length_append]
  split_ifs
  · rw [length_putInt]
    omega
  · rw [List.length_nil]
    omega

theorem length_putChunks (chunkSize : Nat) (between : Bytes) (chunks : Nat) :
    ∀ data : Bytes, (putChunks chunkSize between chunks data).length =
      data.length + chunks * between.length := by
  induction chunks with
  | zero =>
      intro data
      rw [putChunks, Nat.zero_mul, Nat.add_zero]
  | succ chunks inductionHypothesis =>
      intro data
      have both := congrArg List.length (List.take_append_drop chunkSize data)
      rw [List.length_append] at both
      rw [putChunks, List.length_append, List.length_append,
        inductionHypothesis, Nat.add_mul, Nat.one_mul]
      omega

theorem length_encodeHeader_le (w : WriteChannel) (header : Header) :
    (encodeHeader w header).1.length ≤ 18 := by
  have basic :=
    length_encodeHeaderByte_le (headerTypeOf w header) header.channelId
  have fields := length_encodeFields_le header (w.writeHeader.getD header)
    (headerTypeOf w header)
  have length : (encodeHeader w header).1.length =
      (encodeHeaderByte (headerTypeOf w header) header.channelId).length +
        (encodeFields header (w.writeHeader.getD header)
          (headerTypeOf w header)).1.length := List.length_append
  omega

/-- Whatever was written before, a packet fits into its buffer. -/
theorem length_encodePacket_le (w : WriteState) (header : Header)
    (message : Event) :
    ∀ data ∈ message.encodeMessage, ∀ out ∈ (encodePacket w header message).1,
      out.length ≤ bufSize data.length
        (w.setWriteChunkSize message).writeChunkSize := by
  intro data isData out isOut
  rw [Option.mem_def] at isData isOut
  simp only [encodePacket, isData, Option.some.injEq] at isOut
  rw [← isOut, List.length_append, length_putChunks]
  generalize (w.setWriteChunkSize message).writeChunkSize = chunkSize
  generalize (w.setWriteChunkSize message).channels _ = channel
  have head := length_encodeHeader_le channel
    { header with size := UInt32.ofNat data.length }
  have between := Nat.mul_le_mul_left (numChunks data.length chunkSize - 1)
    (length_continuation_le (encodeHeader channel
      { header with size := UInt32.ofNat data.length }).2)
  rw [bufSize]
  split_ifs <;> omega

theorem length_encodePacket_le_video :
    ∃ out, (encodePacket { writeChunkSize := 4 }
        (channelHeader 8 1 (.other TYPE_VIDEO_DATA [1, 2, 3, 4, 5]) 40)
        (.other TYPE_VIDEO_DATA [1, 2, 3, 4, 5])).1 = some out ∧
      out.length ≤ bufSize 5 4 :=
  ⟨_, rfl, length_encodePacket_le _ _ (.other TYPE_VIDEO_DATA [1, 2, 3, 4, 5])
    [1, 2, 3, 4, 5] (by decide) _ rfl⟩

/-! ## What the decoder keeps -/

theorem readUnsignedMediumInt_lt {bytes : Bytes} (short : bytes.length ≤ 3) :
    (readUnsignedMediumInt bytes).toNat < 16777216 := by
  have value : ofBE bytes < 256 ^ bytes.length := by
    have reversed := ofLE_lt bytes.reverse
    rw [List.length_reverse] at reversed
    exact reversed
  have atMost : 256 ^ bytes.length ≤ 256 ^ 3 :=
    Nat.pow_le_pow_right (by decide) short
  rw [readUnsignedMediumInt, UInt32.toNat_ofNat']
  omega

/-- A header has its size from its bytes or from the last header. -/
theorem size_decodeHeader_lt {headerType : HeaderType} {channelId : Nat}
    {fields : Bytes} {last : Option Header} {header : Header}
    (lastSize : ∀ h ∈ last, h.size.toNat < 16777216)
    (decoded : decodeHeader headerType channelId fields last = some header) :
    header.size.toNat < 16777216 := by
  have fromBytes : (readUnsignedMediumInt
      ((fields.drop 3).take 3)).toNat < 16777216 :=
    readUnsignedMediumInt_lt (List.length_take_le 3 _)
  cases headerType with
  | HEADER_NEW =>
      rw [decodeHeader_new] at decoded
      cases decoded
      exact fromBytes
  | HEADER_SAME_SOURCE =>
      cases last with
      | none => exact absurd decoded.symm (Option.some_ne_none header)
      | some lastHeader =>
          cases decoded
          exact fromBytes
  | HEADER_TIMER_CHANGE =>
      cases last with
      | none => exact absurd decoded.symm (Option.some_ne_none header)
      | some lastHeader =>
          cases decoded
          exact lastSize lastHeader rfl
  | HEADER_CONTINUE =>
      cases last with
      | none => exact absurd decoded.symm (Option.some_ne_none header)
      | some lastHeader =>
          cases decoded
          exact lastSize lastHeader rfl

/-- What is kept of a channel. -/
structure ModestChannel (channel : ReadChannel) : Prop where
  header : ∀ h ∈ channel.readHeader, h.size.toNat < 16777216
  packet : ∀ packet ∈ channel.readPacket, packet.data.length < 16777216

def Modest (r : ReadState) : Prop :=
  ∀ channelId, ModestChannel (r.channels channelId)

theorem Modest.setChannel {r : ReadState} (modest : Modest r)
    (channelId : Nat) {channel : ReadChannel}
    (channelModest : ModestChannel channel) :
    Modest (r.setChannel channelId channel) := by
  intro other
  by_cases same : other = channelId
  · rw [same, channels_setChannel]
    exact channelModest
  · have unchanged : (r.setChannel channelId channel).channels other =
        r.channels other := Function.update_of_ne same _ _
    rw [unchanged]
    exact modest other

/-- The most that the decoder asks for. -/
def maxAmount : Nat := 18 + 16777215

/-- What the decoder may make of some bytes. -/
inductive Modestly (bytes : Bytes) : Outcome ReadState DecodedObject → Prop where
  | wait {r : ReadState} {amount : Nat} (modest : Modest r)
      (more : bytes.length < amount) (bound : amount ≤ maxAmount) :
      Modestly bytes (.wait r amount)
  | done {r : ReadState} {consumed : Nat} {results : List DecodedObject}
      (modest : Modest r) (taken : 0 < consumed) :
      Modestly bytes (.done r consumed results)

theorem byteCount_le (headerByte : UInt8) : byteCount headerByte ≤ 3 := by
  unfold byteCount
  split_ifs <;> decide

theorem headerLengthOf_le (headerType : HeaderType) {byteCount : Nat}
    (short : byteCount ≤ 3) (last : Option Header) (bytes : Bytes) :
    0 < headerLengthOf headerType byteCount last bytes ∧
      headerLengthOf headerType byteCount last bytes ≤ 18 := by
  have either (extended : Prop) [Decidable extended] (length : Nat)
      (positive : 0 < length) (atMost : length ≤ 12) :
      0 < (if extended then length + (byteCount - 1) + 4
          else length + (byteCount - 1)) ∧
        (if extended then length + (byteCount - 1) + 4
          else length + (byteCount - 1)) ≤ 18 := by
    by_cases isExtended : extended
    · rw [if_pos isExtended]
      omega
    · rw [if_neg isExtended]
      omega
  cases headerType with
  | HEADER_NEW => exact either _ 12 (by decide) (by decide)
  | HEADER_SAME_SOURCE => exact either _ 8 (by decide) (by decide)
  | HEADER_TIMER_CHANGE => exact either _ 4 (by decide) (by decide)
  | HEADER_CONTINUE => exact either _ 1 (by decide) (by decide)

section

variable {r : ReadState} (modest : Modest r) {bytes : Bytes}
  (some : bytes ≠ [])

include modest some

theorem closed_modestly : Modestly bytes (closed r bytes) :=
  .done modest (List.length_pos_iff.mpr some)

theorem finishPacket_modestly (channelId : Nat) {header : Header}
    (size : header.size.toNat < 16777216) (packet : ReadPacket)
    {consumed : Nat} (taken : 0 < consumed) :
    Modestly bytes
      (finishPacket amf r channelId header packet bytes consumed) := by
  have received : ModestChannel
      { readHeader := Option.some { header with timerBase := header.getTimer }
        readPacketHeader := Option.some packet.header
        readPacket := none } := by
    constructor
    · intro h isHeader
      cases isHeader
      exact size
    · intro pending isPending
      cases isPending
  have kept := modest.setChannel channelId received
  rw [finishPacket]
  cases readControl amf packet.header packet.data with
  | none =>
      have dropped : ModestChannel
          { r.channels channelId with readPacket := none } := by
        refine ⟨(modest channelId).header, ?_⟩
        intro pending isPending
        cases isPending
      exact closed_modestly (modest.setChannel channelId dropped) some
  | some control =>
      cases control with
      | none => exact .done kept taken
      | chunkSize size => exact .done kept taken
      | abort aborted =>
          refine .done (kept.setChannel _ ?_) taken
          have channel := kept aborted.toNat
          split_ifs
          · exact channel
          · refine ⟨channel.header, ?_⟩
            intro pending isPending
            cases isPending

theorem readChunk_modestly (channelId : Nat) {header : Header}
    (size : header.size.toNat < 16777216) {headerLength : Nat}
    (positive : 0 < headerLength) (short : headerLength ≤ 18) :
    Modestly bytes (readChunk amf r channelId header headerLength bytes) := by
  have packetSmall : ((r.channels channelId).readPacket.getD
      { header := header }).data.length < 16777216 := by
    cases isPacket : (r.channels channelId).readPacket with
    | none => exact Nat.zero_lt_succ _
    | some packet => exact (modest channelId).packet packet isPacket
  simp only [readChunk]
  generalize (r.channels channelId).readPacket.getD { header := header } =
    packet at packetSmall ⊢
  generalize ReadState.readChunkSize _ = chunkSize
  generalize isAmount :
    (if (header.size.toNat : Int) - packet.data.length > chunkSize then
      chunkSize
    else (header.size.toNat : Int) - packet.data.length) = readAmount
  have amountLe : readAmount ≤ header.size.toNat := by
    rw [← isAmount]
    split_ifs <;> omega
  simp only [channels_setChannel, setChannel_setChannel]
  have kept (data : Bytes) (small : data.length < 16777216) :
      Modest (r.setChannel channelId {
        readHeader := Option.some header
        readPacketHeader := (r.channels channelId).readPacketHeader
        readPacket := Option.some { packet with data := data } }) := by
    refine modest.setChannel channelId ⟨?_, ?_⟩
    · intro h isHeader
      cases isHeader
      exact size
    · intro still isPacket
      cases isPacket
      exact small
  by_cases negative : readAmount < 0
  · rw [if_pos negative]
    exact closed_modestly (kept packet.data packetSmall) some
  · rw [if_neg negative]
    by_cases missing : bytes.length < headerLength + readAmount.toNat
    · rw [if_pos missing]
      refine .wait (kept packet.data packetSmall) missing ?_
      rw [maxAmount]
      omega
    · rw [if_neg missing]
      split_ifs with unfinished
      · exact .done (kept _ (Nat.lt_trans unfinished size)) (by omega)
      · exact finishPacket_modestly (kept packet.data packetSmall) some
          channelId size _ (by omega)

theorem decodePacket_modestly : Modestly bytes (decodePacket amf r bytes) := by
  have positive := List.length_pos_iff.mpr some
  have short := byteCount_le (bytes.getD 0 0)
  rw [decodePacket, if_neg (by omega)]
  by_cases noBasic : bytes.length < byteCount (bytes.getD 0 0)
  · rw [if_pos noBasic]
    exact .wait modest noBasic (le_trans short (by decide))
  · rw [if_neg noBasic]
    have sameCount : (readBasicHeader bytes).byteCount =
        byteCount (bytes.getD 0 0) := rfl
    cases isType : HeaderType.ofValue (readBasicHeader bytes).headerSize with
    | none =>
        simp only [isType]
        exact closed_modestly modest some
    | some headerType =>
        obtain ⟨lengthPositive, lengthShort⟩ := headerLengthOf_le headerType
          short (r.channels (readBasicHeader bytes).channelId).readHeader bytes
        simp only [isType, sameCount]
        split_ifs with noHeader
        · exact .wait modest noHeader (le_trans lengthShort (by decide))
        · cases decoded : decodeHeader headerType
              (readBasicHeader bytes).channelId
              (bytes.drop (byteCount (bytes.getD 0 0)))
              (r.channels (readBasicHeader bytes).channelId).readHeader with
          | none => exact closed_modestly modest some
          | some header =>
              exact readChunk_modestly modest some _
                (size_decodeHeader_lt (modest _).header decoded)
                lengthPositive lengthShort

theorem decode_modestly : Modestly bytes (decode amf r bytes) := by
  rw [decode]
  cases r.stateCode with
  | STATE_CONNECTED => exact decodePacket_modestly modest some
  | STATE_CONNECT =>
      simp only [decodeHandshakeS1]
      split_ifs with missing
      · exact .wait modest missing (by decide)
      · exact .done modest (by decide)
  | STATE_HANDSHAKE =>
      simp only [decodeHandshakeS2]
      split_ifs with missing
      · exact .wait modest missing (by decide)
      · exact .done modest (by decide)
  | STATE_DISCONNECTED =>
      exact .done modest (List.length_pos_iff.mpr some)

end

theorem decode_bounded : Bounded (decode amf) Modest maxAmount where
  wait {s s' bytes amount} modest some outcome := by
    have modestly : Modestly bytes (decode amf s bytes) :=
      decode_modestly modest some
    rw [outcome] at modestly
    cases modestly with
    | wait modest more bound => exact ⟨modest, more, bound⟩
  done {s s' bytes consumed results} modest some outcome := by
    have modestly : Modestly bytes (decode amf s bytes) :=
      decode_modestly modest some
    rw [outcome] at modestly
    cases modestly with
    | done modest taken => exact ⟨modest, taken⟩

end RTMP

end GroupVoip
