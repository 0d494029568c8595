import GroupVoip.ChunkReading

/-!
# From one end of a connection to the other

The chunks of a message follow each other, and the messages of a connection
follow the handshake.  What the decoder hands on is what was written, in the
same order, however the bytes are cut on their way.
-/

namespace GroupVoip

namespace RTMP

open Library.WireBytes Library.Restarting

variable {amf : UInt8 → Int → Bytes → Bool}

/-! ## The chunks of one message -/

/-- All chunks but the last are full, and the last is not empty. -/
theorem numChunks_eq (dataLen : Nat) {chunkSize : Nat}
    (positive : 0 < chunkSize) :
    ((numChunks dataLen chunkSize - 1) * chunkSize < dataLen ∨
        numChunks dataLen chunkSize - 1 = 0) ∧
      dataLen ≤ (numChunks dataLen chunkSize - 1 + 1) * chunkSize := by
  have quotient := Nat.div_add_mod (dataLen + (chunkSize - 1)) chunkSize
  have small := Nat.mod_lt (dataLen + (chunkSize - 1)) positive
  rw [Nat.mul_comm, ← numChunks] at quotient
  rcases chunks : numChunks dataLen chunkSize with _ | more
  · rw [chunks, Nat.zero_mul] at quotient
    exact ⟨.inr rfl, by omega⟩
  · rw [chunks, Nat.add_mul, Nat.one_mul] at quotient
    rw [Nat.add_sub_cancel, Nat.add_mul, Nat.one_mul]
    exact ⟨.inl (by omega), by omega⟩

theorem numChunks_of_le {dataLen chunkSize : Nat} (positive : 0 < chunkSize)
    (single : dataLen ≤ chunkSize) : numChunks dataLen chunkSize - 1 = 0 := by
  have below : numChunks dataLen chunkSize < 2 := by
    rw [numChunks, Nat.div_lt_iff_lt_mul positive]
    omega
  omega

theorem chunk_continuation (h : Header) (headerType : HeaderType)
    (data rest : Bytes) :
    chunk h headerType (data ++ continuation h ++ rest) =
      chunk h headerType data ++ chunk h .HEADER_CONTINUE rest := by
  have isChunk : chunk h .HEADER_CONTINUE rest = continuation h ++ rest :=
    (List.append_assoc _ _ _).symm
  rw [isChunk, chunk_append, List.append_assoc]

/-- The chunks of a packet are read one after the other. -/
theorem exists_chunks {r : ReadState} {h : Header} {chunkSize : Nat}
    {control : Control} {all : Bytes}
    (connected : r.stateCode = .STATE_CONNECTED)
    (sameSize : r.readChunkSize = chunkSize) (valid : ValidChannel h.channelId)
    (fits : Fits h) (size : h.size.toNat = all.length)
    (known : readControl amf h all = some control)
    (notAbort : ∀ channelId, control ≠ .abort channelId) (chunks : Nat) :
    ∀ {headerType : HeaderType} {last : Option Header} {soFar data : Bytes}
      {s : ReadState}, Follows last h headerType → Expects r last h soFar s →
      soFar ++ data = all → chunks * chunkSize < data.length ∨ chunks = 0 →
      data.length ≤ (chunks + 1) * chunkSize →
      ∃ pieces, Stream (decode amf) s pieces (r.complete h control) ∧
        (pieces.map Prod.fst).flatten = chunk h headerType
          (putChunks chunkSize (continuation h) chunks data) ∧
        (pieces.map Prod.snd).flatten = [.packet {
          header := h
          timestamp := messageTimestamp
            (r.channels h.channelId).readPacketHeader h h
          data := all }] := by
  induction chunks with
  | zero =>
      intro headerType last soFar data s follows expects split _ atMost
      subst split
      rw [List.length_append] at size
      have fitting : Fitting r last h headerType soFar data :=
        ⟨connected, valid, fits, follows, by omega, by omega, .inl size.symm⟩
      exact ⟨_, .cons (fitting.takes_last size.symm known notAbort) expects
        (.nil _), List.append_nil _, rfl⟩
  | succ chunks inductionHypothesis =>
      intro headerType last soFar data s follows expects split more atMost
      subst split
      rw [List.length_append] at size
      have full : chunkSize < data.length ∧
          (data.take chunkSize).length = chunkSize ∧
          (data.drop chunkSize).length = data.length - chunkSize := by
        have there := more.resolve_right (Nat.succ_ne_zero chunks)
        rw [Nat.add_mul, Nat.one_mul] at there
        rw [List.length_take, List.length_drop]
        omega
      obtain ⟨longer, taken, left⟩ := full
      have fitting :
          Fitting r last h headerType soFar (data.take chunkSize) :=
        ⟨connected, valid, fits, follows, by omega, by omega,
          .inr (by omega)⟩
      obtain ⟨pieces, stream, bytes, results⟩ := inductionHypothesis
        (follows_continue h)
        (expects_reading r (some h) h (soFar ++ data.take chunkSize))
        (by rw [List.append_assoc, List.take_append_drop])
        (by
          rw [left]
          rw [Nat.add_mul, Nat.one_mul] at more
          omega)
        (by
          rw [left, Nat.add_mul, Nat.one_mul]
          rw [Nat.add_mul (chunks + 1), Nat.one_mul, Nat.add_mul,
            Nat.one_mul] at atMost
          omega)
      refine ⟨(chunk h headerType (data.take chunkSize), []) :: pieces,
        .cons (fitting.takes_middle (by omega)) expects stream, ?_, results⟩
      rw [List.map_cons, List.flatten_cons, bytes, putChunks,
        chunk_continuation]

/-! ## Messages -/

/-- The size of chunks that an event asks for. -/
def Event.askedSize : Event → Option Nat
  | .chunkSize size => some size
  | .other _ _ => none

/-- A message as a channel writes it. -/
structure Message where
  id : Nat
  streamId : Int
  event : Event
  timestamp : UInt32
deriving DecidableEq, Repr

namespace Message

def header (m : Message) (data : Bytes) : Header :=
  { channelHeader m.id m.streamId m.event m.timestamp with
    size := UInt32.ofNat data.length }

def write (w : WriteState) (m : Message) : Option Bytes × WriteState :=
  encodePacket w (channelHeader m.id m.streamId m.event m.timestamp) m.event

def writeAll : WriteState → List Message → Bytes × WriteState
  | w, [] => ([], w)
  | w, m :: rest =>
      let (packet, next) := m.write w
      let (later, last) := writeAll next rest
      (packet.getD [] ++ later, last)

/-- A message that the fields of a header can carry.  The message with a size
of chunks is itself written in chunks of that size, but read in chunks of the
old one. -/
structure Sendable (amf : UInt8 → Int → Bytes → Bool) (m : Message) :
    Prop where
  valid : ValidChannel m.id
  streamLow : -2147483648 ≤ m.streamId
  streamHigh : m.streamId < 2147483648
  timestamp : m.timestamp.toNat < 2147483648
  size : ∀ data ∈ m.event.encodeMessage, data.length < 16777216
  reads : ∀ data ∈ m.event.encodeMessage,
    readsMessage amf (m.header data) data = true
  chunkSize : ∀ size ∈ m.event.askedSize, 4 ≤ size ∧ size < 2147483648

instance (m : Message) : Decidable (m.Sendable amf) :=
  decidable_of_iff
    (ValidChannel m.id ∧ -2147483648 ≤ m.streamId ∧
      m.streamId < 2147483648 ∧ m.timestamp.toNat < 2147483648 ∧
      (∀ data ∈ m.event.encodeMessage, data.length < 16777216) ∧
      (∀ data ∈ m.event.encodeMessage,
        readsMessage amf (m.header data) data = true) ∧
      ∀ size ∈ m.event.askedSize, 4 ≤ size ∧ size < 2147483648)
    ⟨fun ⟨valid, low, high, timestamp, size, reads, chunkSize⟩ =>
        ⟨valid, low, high, timestamp, size, reads, chunkSize⟩,
      fun ⟨valid, low, high, timestamp, size, reads, chunkSize⟩ =>
        ⟨valid, low, high, timestamp, size, reads, chunkSize⟩⟩

/-- The time of a message for one who knows the last one of its channel. -/
def deliveryTime (m : Message) : Option UInt32 → UInt32
  | none => m.timestamp
  | some last =>
      if (m.event.dataType = TYPE_AUDIO_DATA ∨
          m.event.dataType = TYPE_VIDEO_DATA) ∧ m.timestamp ≤ last then
        last + 1
      else m.timestamp

/-- What arrives of some messages, given the time of the last message of each
channel. -/
def deliverAll : (Nat → Option UInt32) → List Message → List ReceivedPacket
  | _, [] => []
  | times, m :: rest =>
      match m.event.encodeMessage with
      | none => deliverAll times rest
      | some data =>
          { header := m.header data
            timestamp := m.deliveryTime (times m.id)
            data := data } ::
          deliverAll (Function.update times m.id (some m.timestamp)) rest

end Message

/-- A packet without what its header says about the way it was written. -/
def ReceivedPacket.plain (packet : ReceivedPacket) : ReceivedPacket :=
  { packet with header := { packet.header with
      timerBase := packet.header.getTimer
      timerDelta := 0
      extendedTimestamp := 0 } }

def DecodedObject.plain : DecodedObject → DecodedObject
  | .handshake hs => .handshake hs
  | .packet received => .packet received.plain

def ReadState.times (r : ReadState) (channelId : Nat) : Option UInt32 :=
  (r.channels channelId).readPacketHeader.map Header.getTimer

/-- What an event tells the decoder. -/
def Event.control : Event → Control
  | .chunkSize size => .chunkSize size
  | .other _ _ => .none

theorem Event.control_ne_abort (event : Event) (channelId : Int) :
    event.control ≠ .abort channelId := by
  cases event <;> exact nofun

/-- The encoder of one end and the decoder of the other between two
messages. -/
structure Synced (w : WriteState) (r : ReadState) : Prop where
  connected : r.stateCode = .STATE_CONNECTED
  chunkSize : r.readChunkSize = w.writeChunkSize
  atLeast : 4 ≤ w.writeChunkSize
  channels : ∀ channelId, InStep (w.channels channelId) (r.channels channelId)

namespace Message

variable {m : Message} {data : Bytes}

theorem getTimer_header (m : Message) (data : Bytes) :
    (m.header data).getTimer = m.timestamp :=
  UInt32.add_zero m.timestamp

theorem size_header (m : Message) (small : data.length < 16777216) :
    (m.header data).size.toNat = data.length := by
  rw [header, UInt32.toNat_ofNat']
  omega

theorem Sendable.fits (sendable : m.Sendable amf)
    (encoded : m.event.encodeMessage = some data) : Fits (m.header data) where
  size := by
    have small := sendable.size data encoded
    rw [size_header m small]
    exact small
  streamLow := sendable.streamLow
  streamHigh := sendable.streamHigh
  timer := by
    rw [getTimer_header]
    exact sendable.timestamp
  delta := (by decide : (0 : UInt32).toNat < 2147483648)
  extended := (by decide : (0 : UInt32).toNat < 2147483648)

/-- The chunk size of a message and the one before are both enough for a
message with a chunk size. -/
theorem putChunks_eq (sendable : m.Sendable amf)
    (encoded : m.event.encodeMessage = some data) (w : WriteState)
    (atLeast : 4 ≤ w.writeChunkSize) (between : Bytes) :
    let chunkSize := (w.setWriteChunkSize m.event).writeChunkSize
    putChunks chunkSize between (numChunks data.length chunkSize - 1) data =
      putChunks w.writeChunkSize between
        (numChunks data.length w.writeChunkSize - 1) data := by
  intro chunkSize
  cases isEvent : m.event with
  | other dataType body =>
      have same : chunkSize = w.writeChunkSize := by
        simp only [chunkSize, isEvent, WriteState.setWriteChunkSize]
      rw [same]
  | chunkSize size =>
      obtain ⟨sizeAtLeast, _⟩ := sendable.chunkSize size (by rw [isEvent]; rfl)
      have length : data.length = 4 := by
        rw [isEvent, Event.encodeMessage] at encoded
        rw [← Option.some.inj encoded, length_toBE]
      have same : chunkSize = size := by
        simp only [chunkSize, isEvent, WriteState.setWriteChunkSize]
      rw [numChunks_of_le (by omega) (by omega),
        numChunks_of_le (by omega) (by omega)]
      rfl

/-- What the decoder is told by a message that it can be sent. -/
theorem Sendable.readControl (sendable : m.Sendable amf)
    (encoded : m.event.encodeMessage = some data) {h : Header}
    (sameType : h.dataType = m.event.dataType)
    (sameStream : h.streamId = m.streamId) :
    RTMP.readControl amf h data = some m.event.control := by
  have reads : readsMessage amf h data = true := by
    have known := sendable.reads data encoded
    rw [readsMessage] at known ⊢
    rw [sameType, sameStream]
    exact known
  rw [RTMP.readControl, if_pos reads, sameType]
  cases isEvent : m.event with
  | other dataType body =>
      rw [isEvent, Event.encodeMessage] at encoded
      split_ifs at encoded with known
      have plain : ∀ dataType ∈ Event.encodedTypes,
          dataType ≠ TYPE_CHUNK_SIZE ∧ dataType ≠ TYPE_ABORT := by
        decide +kernel
      obtain ⟨notChunkSize, notAbort⟩ := plain dataType known
      exact (if_neg notChunkSize).trans (if_neg notAbort)
  | chunkSize size =>
      obtain ⟨_, small⟩ := sendable.chunkSize size (by rw [isEvent]; rfl)
      rw [isEvent, Event.encodeMessage] at encoded
      have isData := (Option.some.inj encoded).symm
      have value : (UInt32.ofNat size).toInt32.toInt = size := by
        rw [toInt_toInt32, UInt32.toNat_ofNat', Nat.mod_eq_of_lt (by omega),
          if_pos small]
      have fits : size < 256 ^ 4 := by omega
      have length : data.length = 4 := by rw [isData, length_toBE]
      simp only [Event.dataType, if_true,
        List.take_of_length_le (le_of_eq length)]
      rw [isData, ofBE_toBE_of_lt fits, value]
      rfl

theorem write_none (w : WriteState)
    (unknown : m.event.encodeMessage = none) : m.write w = (none, w) := by
  cases isEvent : m.event with
  | other dataType body =>
      rw [isEvent] at unknown
      rw [write, encodePacket, isEvent]
      simp only [unknown, WriteState.setWriteChunkSize]
  | chunkSize size =>
      rw [isEvent, Event.encodeMessage] at unknown
      exact absurd unknown (Option.some_ne_none _)

/-- The header of a message as it is written. -/
def written (m : Message) (w : WriteState) (data : Bytes) : Header :=
  (encodeHeader (w.channels m.id) (m.header data)).2

theorem write_some (sendable : m.Sendable amf) {w : WriteState}
    (atLeast : 4 ≤ w.writeChunkSize)
    (encoded : m.event.encodeMessage = some data) {last : Option Header}
    {headerType : HeaderType} {fields : Bytes}
    (isType : headerTypeOf (w.channels m.id) (m.header data) = headerType)
    (isFields : (encodeFields (m.header data)
      ((w.channels m.id).writeHeader.getD (m.header data)) headerType).1 =
        fields)
    (known : Written last (m.header data) headerType fields
      (m.written w data)) :
    m.write w = (some (chunk (m.written w data) headerType
        (putChunks w.writeChunkSize (continuation (m.written w data))
          (numChunks data.length w.writeChunkSize - 1) data)),
      (w.setWriteChunkSize m.event).setChannel m.id
        ((w.channels m.id).wrote (m.header data))) := by
  have sameChannels :
      (w.setWriteChunkSize m.event).channels = w.channels := by
    cases m.event <;> rfl
  have head : (encodeHeader (w.channels m.id) (m.header data)).1 =
      encodeHeaderByte headerType m.id ++ fields := by
    rw [← isFields, ← isType]
    rfl
  have sameId : (m.written w data).channelId = m.id := by
    rw [known.others]
    rfl
  have body := putChunks_eq sendable encoded w atLeast
    (continuation (m.written w data))
  rw [chunk, sameId, ← known.fields, ← body, ← List.append_assoc, ← head]
  rw [write, encodePacket]
  simp only [encoded, sameChannels]
  rfl

end Message

theorem InStep.noPacket {w : WriteChannel} {r : ReadChannel}
    (inStep : InStep w r) : r.readPacket = none := by
  cases inStep <;> rfl

/-- Between two messages nothing of the next one was read. -/
theorem expects_first {r : ReadState} {h : Header}
    (noPacket : (r.channels h.channelId).readPacket = none) :
    Expects r (r.channels h.channelId).readHeader h [] r where
  others _ := rfl
  header := .inl rfl
  packet := by
    rw [noPacket]
    rfl
  packetHeader := rfl

section

variable {m : Message} {data : Bytes} {last : Option Header}
  {headerType : HeaderType} {fields : Bytes} {h : Header}
  (known : Written last (m.header data) headerType fields h)

include known

theorem Written.channelId : h.channelId = m.id := by
  rw [known.others]
  rfl

theorem Written.dataType : h.dataType = m.event.dataType := by
  rw [known.others]
  rfl

theorem Written.streamId : h.streamId = m.streamId := by
  rw [known.others]
  rfl

theorem Written.timestamp : h.getTimer = m.timestamp := by
  rw [known.timer, Message.getTimer_header]

theorem Written.plain :
    { h with
      timerBase := h.getTimer
      timerDelta := 0
      extendedTimestamp := 0 } = m.header data := by
  rw [known.timestamp, known.others]
  rfl

theorem Written.messageTimestamp (before : Option Header) :
    messageTimestamp before h h =
      m.deliveryTime (before.map Header.getTimer) := by
  cases before with
  | none => exact known.timestamp
  | some before =>
      have notLater : diffTimestamps before.getTimer m.timestamp ≥ 0 ↔
          m.timestamp ≤ before.getTimer := by
        rw [diffTimestamps, UInt32.le_iff_toNat_le]
        omega
      simp only [RTMP.messageTimestamp, known.dataType, known.timestamp,
        notLater, Message.deliveryTime, Option.map_some]

/-- Once the packet is complete both ends are between two messages again. -/
theorem Synced.complete {w : WriteState} {r : ReadState}
    (synced : Synced w r) (sendable : m.Sendable amf)
    (inStep : InStep ((w.channels m.id).wrote (m.header data)) (.received h)) :
    Synced ((w.setWriteChunkSize m.event).setChannel m.id
        ((w.channels m.id).wrote (m.header data)))
      (r.complete h m.event.control) := by
  have sameChannels (channelId : Nat) :
      InStep (Function.update w.channels m.id
          ((w.channels m.id).wrote (m.header data)) channelId)
        (Function.update r.channels h.channelId (.received h) channelId) := by
    rw [known.channelId]
    by_cases same : channelId = m.id
    · subst same
      rw [Function.update_self, Function.update_self]
      exact inStep
    · rw [Function.update_of_ne same, Function.update_of_ne same]
      exact synced.channels channelId
  cases isEvent : m.event with
  | chunkSize size =>
      have atLeast := (sendable.chunkSize size (by rw [isEvent]; rfl)).1
      exact ⟨synced.connected, rfl, atLeast, sameChannels⟩
  | other dataType body =>
      exact ⟨synced.connected, synced.chunkSize, synced.atLeast, sameChannels⟩

theorem Written.times (r : ReadState) (control : Control) :
    (r.complete h control).times =
      Function.update r.times m.id (some m.timestamp) := by
  have channels : (r.complete h control).channels =
      Function.update r.channels h.channelId (.received h) := by
    cases control <;> rfl
  funext channelId
  rw [ReadState.times, channels, known.channelId]
  by_cases same : channelId = m.id
  · subst same
    rw [Function.update_self, Function.update_self, ReadChannel.received,
      Option.map_some, known.timestamp]
  · rw [Function.update_of_ne same, Function.update_of_ne same,
      ReadState.times]

end

/-- A message goes from the encoder of one end to the decoder of the other. -/
theorem Synced.write {w : WriteState} {r : ReadState} (synced : Synced w r)
    {m : Message} (sendable : m.Sendable amf) {data : Bytes}
    (encoded : m.event.encodeMessage = some data) :
    ∃ pieces received after, Stream (decode amf) r pieces after ∧
      some (pieces.map Prod.fst).flatten = (m.write w).1 ∧
      (pieces.map Prod.snd).flatten = [.packet received] ∧
      received.plain = {
        header := m.header data
        timestamp := m.deliveryTime (r.times m.id)
        data := data } ∧
      Synced (m.write w).2 after ∧
      after.times =
        Function.update r.times m.id (some m.timestamp) := by
  have fits := sendable.fits encoded
  have inStep := synced.channels m.id
  have known := inStep.written fits rfl
  rw [← Message.written] at known
  have wrote := inStep.wrote fits rfl
  rw [← Message.written] at wrote
  have written := Message.write_some sendable synced.atLeast encoded rfl rfl
    known
  have sameId := known.channelId
  have size : (m.written w data).size.toNat = data.length := by
    rw [known.others]
    exact Message.size_header m (sendable.size data encoded)
  have told :=
    sendable.readControl encoded known.dataType known.streamId
  have expects := expects_first (r := r) (h := m.written w data)
    (by rw [sameId]; exact inStep.noPacket)
  have follows := known.follows
  rw [← sameId] at follows
  obtain ⟨full, atMost⟩ := numChunks_eq data.length
    (Nat.lt_of_lt_of_le (by decide) synced.atLeast)
  obtain ⟨pieces, stream, bytes, results⟩ := exists_chunks synced.connected
    synced.chunkSize (by rw [sameId]; exact sendable.valid) known.fits size
    told m.event.control_ne_abort _ follows expects (List.nil_append data)
    full atMost
  refine ⟨pieces, _, _, stream, ?_, results, ?_, ?_,
    known.times r m.event.control⟩
  · rw [bytes, written, sameId]
  · rw [ReceivedPacket.plain, known.plain, known.messageTimestamp, sameId]
    rfl
  · rw [written]
    exact synced.complete known sendable wrote

/-- All messages go from one end to the other. -/
theorem Synced.writeAll {messages : List Message} :
    ∀ {w : WriteState} {r : ReadState}, Synced w r →
      (∀ m ∈ messages, m.Sendable amf) →
      ∃ pieces after, Stream (decode amf) r pieces after ∧
        (pieces.map Prod.fst).flatten = (Message.writeAll w messages).1 ∧
        (pieces.map Prod.snd).flatten.map DecodedObject.plain =
          (Message.deliverAll r.times messages).map .packet ∧
        Synced (Message.writeAll w messages).2 after := by
  induction messages with
  | nil =>
      intro w r synced _
      exact ⟨[], r, .nil r, rfl, rfl, synced⟩
  | cons m rest inductionHypothesis =>
      intro w r synced sendable
      obtain ⟨first, others⟩ := List.forall_mem_cons.mp sendable
      cases encoded : m.event.encodeMessage with
      | none =>
          obtain ⟨pieces, after, stream, bytes, results, syncedAfter⟩ :=
            inductionHypothesis synced others
          refine ⟨pieces, after, stream, ?_, ?_, ?_⟩
          · rw [bytes, Message.writeAll, Message.write_none w encoded]
            rfl
          · rw [results, Message.deliverAll, encoded]
          · rw [Message.writeAll, Message.write_none w encoded]
            exact syncedAfter
      | some data =>
          obtain ⟨pieces, received, middle, stream, bytes, results, plain,
            syncedMiddle, times⟩ := synced.write first encoded
          obtain ⟨later, after, streamLater, bytesLater, resultsLater,
            syncedAfter⟩ := inductionHypothesis syncedMiddle others
          refine ⟨pieces ++ later, after, stream.append streamLater, ?_, ?_,
            syncedAfter⟩
          · have packet : (m.write w).1.getD [] =
                (pieces.map Prod.fst).flatten := by
              rw [← bytes]
              rfl
            rw [List.map_append, List.flatten_append, bytesLater, ← packet]
            rfl
          · rw [List.map_append, List.flatten_append, List.map_append,
              results, resultsLater, times, Message.deliverAll, encoded,
              List.map_singleton, DecodedObject.plain, plain]
            rfl

/-! ## The handshake -/

theorem takes_handshakeS1 {c0c1 : Bytes}
    (length : c0c1.length = HANDSHAKE_SIZE + 1) :
    Takes (decode amf) (· = {}) c0c1 { stateCode := .STATE_HANDSHAKE }
      [.handshake (c0c1.drop 1)] where
  nonempty := by
    intro empty
    rw [empty] at length
    exact absurd length (by decide)
  whole s rest fresh := by
    have enough : ¬ (c0c1 ++ rest).length < HANDSHAKE_SIZE + 1 := by
      rw [List.length_append]
      omega
    have taken : ((c0c1 ++ rest).drop 1).take HANDSHAKE_SIZE =
        c0c1.drop 1 := by
      rw [List.drop_append_of_le_length (by omega)]
      apply List.take_left'
      rw [List.length_drop, length, Nat.add_sub_cancel]
    rw [fresh, decode, decodeHandshakeS1, if_neg enough, taken, length]
  part s front back fresh split some more := by
    have short : front.length < HANDSHAKE_SIZE + 1 := by
      have positive := List.length_pos_iff.mpr more
      rw [← length, split, List.length_append]
      omega
    refine ⟨{}, HANDSHAKE_SIZE + 1, ?_, rfl, short, by omega⟩
    rw [fresh, decode, decodeHandshakeS1, if_pos short]

theorem takes_handshakeS2 {c2 : Bytes} (length : c2.length = HANDSHAKE_SIZE) :
    Takes (decode amf) (· = { stateCode := .STATE_HANDSHAKE }) c2
      { stateCode := .STATE_CONNECTED } [] where
  nonempty := by
    intro empty
    rw [empty] at length
    exact absurd length (by decide)
  whole s rest fresh := by
    have enough : ¬ (c2 ++ rest).length < HANDSHAKE_SIZE := by
      rw [List.length_append]
      omega
    rw [fresh, decode, decodeHandshakeS2, if_neg enough, length]
  part s front back fresh split some more := by
    have short : front.length < HANDSHAKE_SIZE := by
      have positive := List.length_pos_iff.mpr more
      rw [← length, split, List.length_append]
      omega
    refine ⟨_, HANDSHAKE_SIZE, ?_, rfl, short, by omega⟩
    rw [fresh, decode, decodeHandshakeS2, if_pos short]

/-- After the handshake both ends are in step. -/
theorem synced_connected : Synced {} { stateCode := .STATE_CONNECTED } where
  connected := rfl
  chunkSize := rfl
  atLeast := by decide
  channels _ := .fresh

/-- `decodeBuffer` for every read of a connection. -/
def decodeBuffers (amf : UInt8 → Int → Bytes → Bool) (reads : List Bytes) :
    Reader UInt8 ReadState × List DecodedObject :=
  readAll (decode amf) { state := {} } reads

/-- Smaller chunks, a video message, an audio message of the same time, and a
message of a type that is not written. -/
def sampleMessages : List Message :=
  [⟨2, 0, .chunkSize 4, 0⟩, ⟨8, 1, .other TYPE_VIDEO_DATA [1, 2, 3, 4, 5], 40⟩,
    ⟨8, 1, .other 0x63 [0], 40⟩, ⟨8, 1, .other TYPE_AUDIO_DATA [6], 40⟩]

def sampleBytes : Bytes :=
  List.replicate (HANDSHAKE_SIZE + 1) 3 ++
    (List.replicate HANDSHAKE_SIZE 7 ++ (Message.writeAll {} sampleMessages).1)

end RTMP

end GroupVoip
