import GroupVoip.ChunkIndependence
import GroupVoip.FLVTagFormat
import GroupVoip.InputWire

/-!
# From the input side to the slots' parsers

The arrays of a sequence of messages, joined and cut anywhere, are read back
by the mixcoder message by message.
-/

namespace GroupVoip

open Library.Framing Library.WireBytes Library.Runs

/-! ## One tag -/

namespace InputMessage

variable (message : InputMessage)

def streamType : StreamType :=
  StreamType.ofByte message.input.msgType.toUInt8

/-- The bytes of the tag after its type and size. -/
def strFlvTag : Bytes :=
  [(message.input.eventTime >>> 16).toUInt8,
    (message.input.eventTime >>> 8).toUInt8, message.input.eventTime.toUInt8,
    (message.input.eventTime >>> 24).toUInt8, 0, 0, 0] ++
    message.input.flvFrame ++ [0, 0, 0, 0]

/-- What `parser_[id]` makes of the tag. -/
def tag : FLVTag where
  curStreamType := message.streamType
  curFlvTagSize := UInt32.ofNat message.input.flvFrame.length + (7 + 4)
  strFlvTag := message.strFlvTag

theorem tagBytes_eq :
    message.tagBytes =
      ([message.input.msgType.toUInt8] ++
        toBE 3 message.input.flvFrame.length) ++ message.strFlvTag := by
  rw [tagBytes, flvTagBytes, strFlvTag]
  simp only [List.append_assoc]

theorem tagSize :
    message.tag.curFlvTagSize.toNat = message.strFlvTag.length := by
  have small := message.length_lt
  have eleven : ((7 : UInt32) + 4).toNat = 11 := rfl
  rw [tag, strFlvTag, UInt32.toNat_add, UInt32.toNat_ofNat', eleven]
  simp only [List.length_append, List.length_cons, List.length_nil]
  omega

theorem emit_header {s : TagScan}
    (state : s.scanState = .SCAN_HEADER_TYPE_LEN) :
    s.emit ([message.input.msgType.toUInt8] ++
        toBE 3 message.input.flvFrame.length) =
      ([], .ok
        { scanState := .SCAN_REMAINING_TAG
          curFlvTagSize := message.tag.curFlvTagSize
          curStreamType := message.tag.curStreamType }) := by
  have small := message.length_lt
  have top : message.input.flvFrame.length / 256 / 256 / 256 = 0 := by
    omega
  have written : ofLE (toLE 4 message.input.flvFrame.length) =
      message.input.flvFrame.length := ofLE_toLE_of_lt (by omega)
  rw [toLE_four, top] at written
  have sizeBytes : toBE 3 message.input.flvFrame.length =
      [UInt8.ofNat (message.input.flvFrame.length / 256 / 256),
        UInt8.ofNat (message.input.flvFrame.length / 256),
        UInt8.ofNat message.input.flvFrame.length] := rfl
  simp only [TagScan.emit, state, sizeBytes, tag, List.cons_append,
    List.nil_append, List.getD_cons_zero, List.getD_cons_succ]
  have zero : UInt8.ofNat 0 = 0 := rfl
  rw [zero] at written
  rw [written]
  rfl

theorem tag_eq :
    message.tag = (TagFrame.zeros message.input.eventTime).tag
      message.streamType message.input.flvFrame :=
  rfl

/-- Parsing the tag is parsing the payload, with the message's time. -/
theorem readTag_tag (curSpsPps : Bytes) :
    readTag curSpsPps message.tag =
      (readBody curSpsPps message.streamType ⟨message.tag.strFlvTag, 56⟩
        (UInt64.ofNat message.input.flvFrame.length)).map
          fun body => (message.input.eventTime, some body) := by
  rw [tag_eq]
  exact (TagFrame.zeros message.input.eventTime).readTag_tag curSpsPps
    message.streamType message.nonempty message.length_lt

end InputMessage

section Acting

variable {μ : Type} (act : μ → StreamCall → Except Abort μ)

/-- The parser of a slot waits for the first byte of a tag. -/
def AtTagBoundary (parser : tagReader.Scan) : Prop :=
  parser.buf = [] ∧ parser.state.scanState = .SCAN_HEADER_TYPE_LEN

/-- The parser of the slot makes one tag of the record, and waits for the
next. -/
theorem readRecord_tagBytes (message : InputMessage) (parser : ParserBank)
    (owner : μ) (boundary : AtTagBoundary (parser message.slot)) :
    readRecord act parser owner message.slot message.tagBytes =
      (act owner (.flvTag message.slot message.tag)).map fun owner =>
        (Function.update parser message.slot (tagReader.freshScan {}),
          owner) := by
  have header := message.emit_header boundary.2
  have start :
      (parser message.slot).owned (tagAct act message.slot) owner =
        (tagReader.framer (tagAct act message.slot)).fresh
          ((parser message.slot).state, owner) :=
    Framer.Config.eq_fresh boundary.1
  have headerFits :
      ([message.input.msgType.toUInt8] ++
        toBE 3 message.input.flvFrame.length).length =
          tagReader.need (parser message.slot).state := by
    simp [tagReader, TagScan.need, boundary.2]
  have body :
      (tagReader.framer (tagAct act message.slot)).feed
          ((tagReader.framer (tagAct act message.slot)).fresh
            ({ scanState := .SCAN_REMAINING_TAG
               curFlvTagSize := message.tag.curFlvTagSize
               curStreamType := message.tag.curStreamType }, owner))
          (message.strFlvTag ++ []) =
        (run (tagAct act message.slot) owner [message.tag]).bind fun owner =>
          (tagReader.framer (tagAct act message.slot)).feed
            ((tagReader.framer (tagAct act message.slot)).fresh ({}, owner))
            [] := by
    apply Emitter.feed_record
    · simp [InputMessage.strFlvTag]
    · exact message.tagSize.symm
    · rfl
  rw [List.append_nil] at body
  rw [readRecord, start, Framer.read_eq_feed, message.tagBytes_eq,
    Emitter.feed_record owner (by simp) headerFits header]
  simp only [run_nil, Except.bind]
  rw [body, run_cons, tagAct]
  cases act owner (.flvTag message.slot message.tag) <;> rfl

/-- What one array does to the streams: the mask, the source of the message's
slot and its tag, and the sources of the other slots. -/
def InputMessage.calls (message : InputMessage) : List StreamCall :=
  [.streamMask message.mask,
    .streamSource message.slot .kDesktopStreamSource,
    .flvTag message.slot message.tag] ++
    message.others.map fun i => .streamSource i .kDesktopStreamSource

theorem InputMessage.deliveries_activeRecord (message : InputMessage) :
    message.activeRecord.deliveries = [(message.slot, message.tagBytes)] := by
  have something : message.tagBytes ≠ [] := by
    simp [InputMessage.tagBytes, flvTagBytes]
  exact if_neg something

theorem InputMessage.deliveries_segment (message : InputMessage) :
    message.segment.deliveries = [(message.slot, message.tagBytes)] := by
  have none : ∀ slots : List Slot,
      (slots.map emptyRecord).flatMap StreamRecord.deliveries = [] := by
    intro slots
    induction slots with
    | nil => rfl
    | cons i rest inductionHypothesis => exact inductionHypothesis
  rw [Segment.deliveries, segment, List.flatMap_cons,
    message.deliveries_activeRecord, none, List.append_nil]

theorem run_others (slots : List Slot) (parser : ParserBank) :
    ∀ owner : μ,
      run (segmentAct act) (parser, owner)
          ((slots.map InputMessage.emptyRecord).flatMap StreamRecord.calls) =
        (run act owner (slots.map fun i =>
          .streamSource i .kDesktopStreamSource)).map
            fun owner => (parser, owner) := by
  induction slots with
  | nil =>
      intro owner
      rfl
  | cons i rest inductionHypothesis =>
      intro owner
      have calls : (InputMessage.emptyRecord i).calls =
          [.streamSource i .kDesktopStreamSource] := rfl
      rw [List.map_cons, List.flatMap_cons, calls, List.singleton_append,
        run_cons, List.map_cons, run_cons, segmentAct]
      cases act owner (.streamSource i .kDesktopStreamSource) with
      | error stopped => rfl
      | ok next => exact inductionHypothesis next

/-- One segment: its calls, with only the parser of the message's slot used. -/
theorem run_segment (message : InputMessage) (parser : ParserBank)
    (owner : μ) (boundary : AtTagBoundary (parser message.slot)) :
    run (segmentAct act) (parser, owner) message.segment.calls =
      (run act owner message.calls).map fun owner =>
        (Function.update parser message.slot (tagReader.freshScan {}),
          owner) := by
  have active : message.activeRecord.calls =
      [.streamSource message.slot .kDesktopStreamSource,
        .readRecord message.slot message.tagBytes] := by
    rw [StreamRecord.calls, message.deliveries_activeRecord]
    rfl
  have calls : message.segment.calls =
      [.streamMask message.mask,
        .streamSource message.slot .kDesktopStreamSource,
        .readRecord message.slot message.tagBytes] ++
        (message.others.map InputMessage.emptyRecord).flatMap
          StreamRecord.calls := by
    rw [Segment.calls, InputMessage.segment, List.flatMap_cons, active]
    rfl
  rw [calls, InputMessage.calls, run_append, run_append]
  simp only [run_cons, run_nil, segmentAct]
  cases act owner (.streamMask message.mask) with
  | error stopped => rfl
  | ok masked =>
      simp only [Except.map, Except.bind]
      cases act masked (.streamSource message.slot .kDesktopStreamSource) with
      | error stopped => rfl
      | ok sourced =>
          simp only
          rw [readRecord_tagBytes act message parser sourced boundary]
          cases act sourced (.flvTag message.slot message.tag) with
          | error stopped => rfl
          | ok tagged => exact run_others act message.others _ tagged

theorem run_segments (messages : List InputMessage) :
    ∀ parser : ParserBank, (∀ i, AtTagBoundary (parser i)) →
      ∃ parser' : ParserBank, (∀ i, AtTagBoundary (parser' i)) ∧
        (∀ i, (∀ message, message ∈ messages → message.slot ≠ i) →
          parser' i = parser i) ∧
        ∀ owner : μ,
          run (segmentAct act) (parser, owner)
              ((messages.map InputMessage.segment).flatMap Segment.calls) =
            (run act owner (messages.flatMap InputMessage.calls)).map
              fun owner => (parser', owner) := by
  induction messages with
  | nil =>
      intro parser boundary
      exact ⟨parser, boundary, fun _ _ => rfl, fun _ => rfl⟩
  | cons message rest inductionHypothesis =>
      intro parser boundary
      have boundaryAfter : ∀ i, AtTagBoundary
          (Function.update parser message.slot (tagReader.freshScan {}) i) := by
        apply (Function.forall_update_iff parser fun _ => AtTagBoundary).mpr
        exact ⟨⟨rfl, rfl⟩, fun i _ => boundary i⟩
      obtain ⟨parser', boundary', kept, later⟩ :=
        inductionHypothesis _ boundaryAfter
      refine ⟨parser', boundary', ?_, ?_⟩
      · intro i others
        rw [kept i fun other member =>
          others other (List.mem_cons_of_mem _ member)]
        apply Function.update_of_ne
        exact (others message (by simp)).symm
      · intro owner
        rw [List.map_cons, List.flatMap_cons, List.flatMap_cons, run_append,
          run_append, run_segment act message parser owner (boundary _)]
        cases run act owner message.calls with
        | error stopped => rfl
        | ok next => exact later next

/-- The readers wait for a segment and, in every slot, for a tag. -/
structure InputSide.AtSegment (p : InputSide μ) : Prop where
  empty : p.scan.buf = []
  state : p.scan.state.parsingState = .SEARCHING_SEGHEADER
  parsers : ∀ i, AtTagBoundary (p.parser i)

/-- The calls of the segment reader on some buffers, with nobody behind it. -/
def InputSide.segmentCalls (p : InputSide μ) (inputs : List SmartBuffer) :
    Except Abort (List SegmentCall) :=
  ((segmentReader.framer recordCall).readAll (p.scan.owned recordCall [])
    (inputs.map SmartBuffer.data)).map fun c => c.state.2

theorem InputSide.AtSegment.owned {ν : Type} {p : InputSide μ}
    (start : p.AtSegment) (carry : ν → SegmentCall → Except Abort ν)
    (owner : ν) :
    p.scan.owned carry owner = readerAt carry p.scan.state owner :=
  Framer.Config.eq_fresh start.empty

end Acting

namespace InputMessage

def array (message : InputMessage) : Bytes :=
  match message.input.toByteBuffer message.lookup with
  | .ok flvSegment => flvSegment.written
  | .error _ => []

theorem array_eq (message : InputMessage) :
    message.array = message.segment.bytes := by
  rw [array, toByteBuffer_eq]

/-- What becomes of a message: its array has no room left, the mask sets the
statuses, and its tag is the message. -/
structure Arrives (message : InputMessage) : Prop where
  filled : message.input.toByteBuffer message.lookup =
    .ok { capacity := message.array.length, written := message.array }
  statuses : ∀ (V A : Type) (codecs : Codecs V A) (p : Streams V A),
    ∃ p', p.act codecs (.streamMask message.mask) = .ok p' ∧ ∀ i,
      (p'.stream i).audioStreamStatus =
          (if message.mask.toNat.testBit i.val then
            if (p.stream i).audioStreamStatus = .kStreamOffline then
              .kStreamOnlineNotStarted
            else (p.stream i).audioStreamStatus
          else .kStreamOffline) ∧
        (p'.stream i).videoStreamStatus =
          (if message.mask.toNat.testBit i.val then
            if (p.stream i).videoStreamStatus = .kStreamOffline then
              .kStreamOnlineNotStarted
            else (p.stream i).videoStreamStatus
          else .kStreamOffline)
  type : message.tag.curStreamType =
    if message.input.msgType = 8 then .kAudioStreamType else .kVideoStreamType
  parsed : ∀ curSpsPps,
    readTag curSpsPps message.tag =
      (readBody curSpsPps message.tag.curStreamType
        ⟨message.tag.strFlvTag, 56⟩
        (UInt64.ofNat message.input.flvFrame.length)).map
          fun body => (message.input.eventTime, some body)
  payload : (message.tag.strFlvTag.drop 7).take
    message.input.flvFrame.length = message.input.flvFrame

theorem arrives (message : InputMessage) : message.Arrives where
  filled := by
    rw [array_eq, toByteBuffer_eq]
  statuses := by
    intro V A codecs p
    refine ⟨_, rfl, ?_⟩
    intro i
    rw [← Streams.maskBit_eq_testBit]
    exact ⟨rfl, rfl⟩
  type := by
    rcases message.audioOrVideo with audio | video
    · rw [tag, streamType, audio]
      rfl
    · rw [tag, streamType, video]
      rfl
  parsed := message.readTag_tag
  payload := by
    have front : message.tag.strFlvTag.drop 7 =
        message.input.flvFrame ++ [0, 0, 0, 0] := rfl
    rw [front, List.take_left]

theorem mask_ne_zero (message : InputMessage) : message.segment.mask ≠ 0 := by
  intro zero
  have none := Segment.records_eq_nil.mpr zero
  cases none

end InputMessage

/-! ## Several arrays -/

section Arrays

variable {μ : Type} {messages : List InputMessage} {inputs : List SmartBuffer}

theorem stream_eq_segments
    (cut : SmartBuffer.stream inputs =
      messages.flatMap InputMessage.array) :
    SmartBuffer.stream inputs =
      (messages.map InputMessage.segment).flatMap Segment.bytes := by
  rw [cut, List.flatMap_map]
  congr 1
  funext message
  exact message.array_eq

theorem feed_segments (messages : List InputMessage) {ν : Type}
    (carry : ν → SegmentCall → Except Abort ν) {p : InputSide μ}
    (start : p.AtSegment) (owner : ν) :
    ((segmentReader.framer carry).feed (p.scan.owned carry owner)
        ((messages.map InputMessage.segment).flatMap Segment.bytes)).map
      (fun c => c.state.2) =
    run carry owner
      ((messages.map InputMessage.segment).flatMap Segment.calls) := by
  rw [readSettled_owner, start.owned]
  apply readSettled_segments carry _ _ _ start.state
  intro segment member
  obtain ⟨message, _, same⟩ :=
    List.mem_map.mp (List.mem_of_mem_dropLast member)
  rw [← same]
  exact message.mask_ne_zero

/-- Each array hands one record to the parser of its slot. -/
theorem segmentCalls_delivery {p : InputSide μ} (start : p.AtSegment)
    (cut : SmartBuffer.stream inputs =
      messages.flatMap InputMessage.array) :
    ∃ calls, p.segmentCalls inputs = .ok calls ∧
      calls.filterMap SegmentCall.delivery =
        messages.map fun message => (message.slot, message.tagBytes) := by
  have fed := feed_segments messages recordCall start []
  rw [run_recordCall, ← stream_eq_segments cut] at fed
  refine ⟨(messages.map InputMessage.segment).flatMap Segment.calls, ?_, ?_⟩
  · rw [InputSide.segmentCalls, Framer.readAll_eq_feed]
    exact fed
  · rw [filterMap_delivery, List.flatMap_map]
    simp only [InputMessage.deliveries_segment]
    exact List.map_eq_flatMap.symm

theorem readAll_messages (act : μ → StreamCall → Except Abort μ)
    {p : InputSide μ} (start : p.AtSegment)
    (cut : SmartBuffer.stream inputs =
      messages.flatMap InputMessage.array) :
    (p.readAll act inputs).map (fun q => (q.parser, q.streams)) =
      run (segmentAct act) (p.parser, p.streams)
        ((messages.map InputMessage.segment).flatMap Segment.calls) := by
  have fed := feed_segments messages (segmentAct act) start
    (p.parser, p.streams)
  rw [← stream_eq_segments cut] at fed
  rw [InputSide.readAll_eq_readBytes, InputSide.readBytes, ← fed]
  change Except.map _ (Except.map _ ((segmentReader.framer _).feed
    (p.scan.owned (segmentAct act) (p.parser, p.streams)) _)) = _
  cases (segmentReader.framer (segmentAct act)).feed
    (p.scan.owned (segmentAct act) (p.parser, p.streams))
      (SmartBuffer.stream inputs) <;> rfl

end Arrays

/-- The arrays of a sequence of messages, joined and cut anywhere, are read
message by message: the mask, then one tag for the slot of the message, and
nothing for any other slot. -/
theorem inputs_roundTrip {μ : Type} (act : μ → StreamCall → Except Abort μ)
    (messages : List InputMessage) (inputs : List SmartBuffer)
    (p : InputSide μ) (start : p.AtSegment)
    (cut : SmartBuffer.stream inputs =
      messages.flatMap InputMessage.array) :
    (∀ message, message ∈ messages → message.Arrives) ∧
    (∃ calls, p.segmentCalls inputs = .ok calls ∧
      calls.filterMap SegmentCall.delivery =
        messages.map fun message => (message.slot, message.tagBytes)) ∧
    ∃ parser : ParserBank, (∀ i, AtTagBoundary (parser i)) ∧
      (∀ i, (∀ message, message ∈ messages → message.slot ≠ i) →
        parser i = p.parser i) ∧
      (p.readAll act inputs).map (fun q => (q.parser, q.streams)) =
        (run act p.streams (messages.flatMap InputMessage.calls)).map
          fun streams => (parser, streams) := by
  obtain ⟨parser, boundary, kept, ran⟩ :=
    run_segments act messages p.parser start.parsers
  refine ⟨fun message _ => message.arrives,
    segmentCalls_delivery start cut, parser, boundary, kept, ?_⟩
  rw [readAll_messages act start cut, ran]

/-! ## Two messages -/

/-- An audio message of slot 0, with slot 2 in the group. -/
def audioMessage : InputMessage where
  input := { msgType := 8, flvFrame := [0x2f, 7], eventTime := 26 }
  slot := Slot.ofNat 0
  mask := 5
  isSet := by decide
  slotFree := by decide +kernel
  audioOrVideo := Or.inl rfl
  nonempty := by decide
  length_lt := by decide

/-- A video message of slot 2, a while later. -/
def videoMessage : InputMessage where
  input :=
    { msgType := 9, flvFrame := [0x27, 2, 0, 0, 0], eventTime := 0x80000001 }
  slot := Slot.ofNat 2
  mask := 5
  isSet := by decide
  slotFree := by decide +kernel
  audioOrVideo := Or.inr rfl
  nonempty := by decide
  length_lt := by decide

def twoArrays : List SmartBuffer :=
  [⟨audioMessage.array.take 20, by decide +kernel⟩,
    ⟨audioMessage.array.drop 20 ++ videoMessage.array, by decide +kernel⟩]

def recordStreamCall (made : List StreamCall) (call : StreamCall) :
    Except Abort (List StreamCall) :=
  .ok (made ++ [call])

/-- Slot 2 has nothing to say at first, and slot 0 later. -/
def twoArraysCalls : List StreamCall :=
  [.streamMask 5,
    .streamSource (Slot.ofNat 0) .kDesktopStreamSource,
    .flvTag (Slot.ofNat 0) ⟨.kAudioStreamType, 13,
      [0, 0, 26, 0, 0, 0, 0, 0x2f, 7, 0, 0, 0, 0]⟩,
    .streamSource (Slot.ofNat 2) .kDesktopStreamSource,
    .streamMask 5,
    .streamSource (Slot.ofNat 2) .kDesktopStreamSource,
    .flvTag (Slot.ofNat 2) ⟨.kVideoStreamType, 16,
      [0, 0, 1, 128, 0, 0, 0, 0x27, 2, 0, 0, 0, 0, 0, 0, 0]⟩,
    .streamSource (Slot.ofNat 0) .kDesktopStreamSource]

theorem inputs_roundTrip_twoMessages :
    ((InputSide.start []).readAll recordStreamCall twoArrays).map
      InputSide.streams = .ok twoArraysCalls := by
  have start : (InputSide.start ([] : List StreamCall)).AtSegment :=
    ⟨rfl, rfl, fun _ => ⟨rfl, rfl⟩⟩
  obtain ⟨_, _, parser, _, _, read⟩ := inputs_roundTrip recordStreamCall
    [audioMessage, videoMessage] twoArrays (InputSide.start []) start
    (by decide +kernel)
  have ran : run recordStreamCall []
      ([audioMessage, videoMessage].flatMap InputMessage.calls) =
        .ok twoArraysCalls := by
    decide +kernel
  rw [show (InputSide.start ([] : List StreamCall)).streams = [] from rfl, ran]
    at read
  obtain ⟨q, reached, same⟩ := map_ok.mp read
  rw [reached]
  exact congrArg Except.ok (congrArg Prod.snd same)

end GroupVoip
