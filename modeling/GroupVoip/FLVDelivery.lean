import GroupVoip.FLVOutput
import GroupVoip.GroupMixer

/-!
# From FLVOutput to GroupMixer

Writer and reader of the mixed frames agree on the layout of a tag, so a
packaged packet comes back as one message.  The header in front of the first
frame has a metadata tag of its own, which comes back as one more.
-/

namespace GroupVoip

open Library.WireBytes RTMP

/-! ## Tags on the wire -/

/-- A tag: type, size of the data, timestamp, stream id, data and the size of
the tag so far. -/
def wireTag (tagType : UInt8) (ts : UInt32) (body : Bytes) : Bytes :=
  [tagType] ++ toBE 3 body.length ++ toBE 3 ts.toNat ++
    toBE 1 (ts.toNat / 16777216) ++ [0, 0, 0] ++ body ++
    toBE 4 (11 + body.length)

theorem length_wireTag (tagType : UInt8) (ts : UInt32) (body : Bytes) :
    (wireTag tagType ts body).length = 15 + body.length := by
  simp only [wireTag, List.length_append, length_toBE, List.length_cons,
    List.length_nil]
  omega

namespace GroupMixer

theorem arrayAt_append (before bytes : Bytes) (k : Nat) :
    arrayAt (before ++ bytes) (before.length + k) = arrayAt bytes k := by
  rw [arrayAt, arrayAt, List.getElem?_append_right (by omega),
    Nat.add_sub_cancel_left]

/-- The head of a tag reads back. -/
theorem readTagHead_wireTag (before after : Bytes) (tagType : UInt8)
    (ts : UInt32) {body : Bytes} (small : body.length < 16777216) :
    readTagHead (before ++ (wireTag tagType ts body ++ after)) before.length =
      .ok (tagType, UInt32.ofNat body.length, ts) := by
  have first := arrayAt_append before (wireTag tagType ts body ++ after) 0
  rw [Nat.add_zero] at first
  rw [readTagHead, first]
  simp only [arrayAt_append]
  have bytes : wireTag tagType ts body ++ after =
      tagType :: UInt8.ofNat (body.length / 256 / 256) ::
        UInt8.ofNat (body.length / 256) :: UInt8.ofNat body.length ::
        UInt8.ofNat (ts.toNat / 256 / 256) :: UInt8.ofNat (ts.toNat / 256) ::
        UInt8.ofNat ts.toNat :: UInt8.ofNat (ts.toNat / 16777216) ::
        ([0, 0, 0] ++ body ++ toBE 4 (11 + body.length) ++ after) := by
    simp only [wireTag, toBE_three, List.append_assoc, List.cons_append,
      List.nil_append]
    rfl
  rw [bytes]
  have size := join3_toBE small
  have timestamp := join3_or_toBE ts
  show Except.ok (tagType, _, _) = _
  rw [size, timestamp]

/-- The data of a tag reads back. -/
theorem dataRemaining_wireTag (before after : Bytes) (tagType : UInt8)
    (ts : UInt32) (body : Bytes) :
    dataRemaining (before ++ (wireTag tagType ts body ++ after))
      (before.length + 11) body.length = .ok body := by
  have fits : before.length + 11 + body.length ≤
      (before ++ (wireTag tagType ts body ++ after)).length := by
    rw [List.length_append, List.length_append, length_wireTag]
    omega
  have split : before ++ (wireTag tagType ts body ++ after) =
      (before ++ ([tagType] ++ toBE 3 body.length ++ toBE 3 ts.toNat ++
        toBE 1 (ts.toNat / 16777216) ++ [0, 0, 0])) ++
        (body ++ (toBE 4 (11 + body.length) ++ after)) := by
    simp only [wireTag, List.append_assoc]
  have front : (before ++ ([tagType] ++ toBE 3 body.length ++
      toBE 3 ts.toNat ++ toBE 1 (ts.toNat / 16777216) ++
      [0, 0, 0])).length = before.length + 11 := by
    simp only [List.length_append, length_toBE, List.length_cons,
      List.length_nil]
  rw [dataRemaining, if_pos fits, split, ← front, List.drop_left,
    List.take_left]

/-- The messages that are handed over as they are. -/
def eventKind (tagType : UInt8) : Option EventKind :=
  if tagType = TYPE_AUDIO_DATA then some .audioData
  else if tagType = TYPE_VIDEO_DATA then some .videoData
  else if tagType = TYPE_STREAM_METADATA then some .notify
  else none

/-- A tag of a known type comes back as one message, and the index moves on to
the next tag. -/
theorem onTag_wireTag (streamId : Int) (before after : Bytes)
    {tagType : UInt8} {kind : EventKind} (ts : UInt32) {body : Bytes}
    (small : body.length < 16777216) (known : eventKind tagType = some kind) :
    onTag streamId (before ++ (wireTag tagType ts body ++ after)) false
        before.length =
      .ok ([.handleMessageReceived (newPacket streamId tagType kind
          (UInt32.ofNat body.length) ts body)],
        (before ++ wireTag tagType ts body).length) := by
  have size : (UInt32.ofNat body.length).toNat = body.length := by
    rw [UInt32.toNat_ofNat']
    omega
  have next : before.length + 11 + (body.length + 4) =
      (before ++ wireTag tagType ts body).length := by
    rw [List.length_append, length_wireTag]
    omega
  rw [onTag, readTagHead_wireTag before after tagType ts small]
  simp only [bind, Except.bind, size, next, dataRemaining_wireTag]
  unfold eventKind at known
  by_cases audio : tagType = TYPE_AUDIO_DATA
  · rw [if_pos audio] at known ⊢
    cases known
    rfl
  · by_cases video : tagType = TYPE_VIDEO_DATA
    · rw [if_neg audio, if_pos video] at known ⊢
      cases known
      rfl
    · by_cases metadata : tagType = TYPE_STREAM_METADATA
      · rw [if_neg audio, if_neg video, if_pos metadata] at known ⊢
        cases known
        rfl
      · rw [if_neg audio, if_neg video, if_neg metadata] at known
        cases known

end GroupMixer

/-! ## Packaging -/

theorem byteAt_eq (x : UInt32) {shift : UInt32} (small : shift.toNat < 32) :
    byteAt x shift = UInt8.ofNat (x.toNat / 2 ^ shift.toNat) := by
  have low : (0xff : UInt32).toNat = 2 ^ 8 - 1 := by decide
  rw [← toUInt8_shiftRight x shift small, byteAt]
  apply UInt8.toNat_inj.mp
  rw [UInt32.toNat_toUInt8, UInt32.toNat_toUInt8, UInt32.toNat_and, low,
    Nat.and_two_pow_sub_one_eq_mod]
  exact Nat.mod_mod _ _

theorem tagHead_eq (tagType : UInt8) (dataLen ts : UInt32) :
    tagHead tagType dataLen ts =
      [tagType] ++ toBE 3 dataLen.toNat ++ toBE 3 ts.toNat ++
        toBE 1 (ts.toNat / 16777216) ++ [0, 0, 0] := by
  have zero (x : UInt32) : byteAt x 0 = UInt8.ofNat x.toNat := by
    rw [byteAt_eq x (by decide)]
    exact congrArg UInt8.ofNat (Nat.div_one _)
  have eight (x : UInt32) : byteAt x 8 = UInt8.ofNat (x.toNat / 256) :=
    byteAt_eq x (by decide)
  have sixteen (x : UInt32) :
      byteAt x 16 = UInt8.ofNat (x.toNat / 256 / 256) := by
    rw [byteAt_eq x (by decide), Nat.div_div_eq_div_mul]
    rfl
  have top : byteAt ts 24 = UInt8.ofNat (ts.toNat / 16777216) :=
    byteAt_eq ts (by decide)
  rw [tagHead, zero, eight, sixteen, zero, eight, sixteen, top, toBE_three,
    toBE_three]
  rfl

theorem prevTagSize_eq (dataLen : UInt32) :
    prevTagSize dataLen = toBE 4 (11 + dataLen).toNat := by
  have written := toLE_toNat (11 + dataLen)
  have low (x shift : UInt32) (small : shift.toNat < 32) :
      byteAt x shift = (x >>> shift).toUInt8 := by
    rw [byteAt_eq x small, toUInt8_shiftRight x shift small]
  rw [prevTagSize, low _ 24 (by decide), low _ 16 (by decide),
    low _ 8 (by decide), low _ 0 (by decide), toBE, written,
    UInt32.shiftRight_zero]
  rfl

/-- The pieces of a frame with a short body fill its buffer, and are its
tag. -/
theorem newBuffer_wireTag (tagType : UInt8) (ts : UInt32) {body : Bytes}
    (pieces : List Bytes) (small : body.length < 16777216)
    (whole : pieces.flatten = body) :
    newBuffer (11 + UInt32.ofNat body.length + 4).toNat
        (tagHead tagType (UInt32.ofNat body.length) ts ::
          (pieces ++ [prevTagSize (UInt32.ofNat body.length)])) =
      .ok (wireTag tagType ts body) := by
  have length : (UInt32.ofNat body.length).toNat = body.length := by
    rw [UInt32.toNat_ofNat']
    omega
  have eleven : (11 : UInt32).toNat = 11 := rfl
  have four : (4 : UInt32).toNat = 4 := rfl
  have tagSize : (11 + UInt32.ofNat body.length).toNat = 11 + body.length := by
    rw [UInt32.toNat_add, length, eleven]
    omega
  have size : (11 + UInt32.ofNat body.length + 4).toNat =
      15 + body.length := by
    rw [UInt32.toNat_add, tagSize, four]
    omega
  have bytes : (tagHead tagType (UInt32.ofNat body.length) ts ::
      (pieces ++ [prevTagSize (UInt32.ofNat body.length)])).flatten =
        wireTag tagType ts body := by
    rw [List.flatten_cons, List.flatten_append, whole, tagHead_eq,
      prevTagSize_eq, length, tagSize, wireTag]
    simp only [List.flatten_cons, List.flatten_nil, List.append_nil,
      List.append_assoc]
  rw [newBuffer, bytes, size, length_wireTag, if_pos rfl]

/-- The four coordinates of a rectangle in two bytes each; without a rectangle
they are zero. -/
def rectangleBytes (rect : Option VideoRect) : Bytes :=
  let r := rect.getD ⟨0, 0, 0, 0⟩
  toBE 2 r.x.toNat ++ toBE 2 r.y.toNat ++ toBE 2 r.width.toNat ++
    toBE 2 r.height.toNat

def VideoRect.Fits (r : VideoRect) : Prop :=
  (0 ≤ r.x ∧ r.x < 65536) ∧ (0 ≤ r.y ∧ r.y < 65536) ∧
    (0 ≤ r.width ∧ r.width < 65536) ∧ (0 ≤ r.height ∧ r.height < 65536)

instance (r : VideoRect) : Decidable r.Fits := by
  unfold VideoRect.Fits
  infer_instance

theorem coordinate_eq {x : Int} (fits : 0 ≤ x ∧ x < 65536) :
    coordinate x = toBE 2 x.toNat := by
  obtain ⟨n, rfl⟩ := Int.eq_ofNat_of_zero_le fits.1
  have small : n < 65536 := by omega
  have value : (Int32.ofInt (n : Int)).toUInt32.toNat = n := by
    change (UInt32.ofNat n).toNat = n
    rw [UInt32.toNat_ofNat']
    omega
  rw [coordinate, byteAt_eq _ (by decide), byteAt_eq _ (by decide), value]
  have zero : n / 2 ^ (0 : UInt32).toNat = n := Nat.div_one n
  rw [zero]
  rfl

theorem rectBytes_eq {rect : Option VideoRect} (fits : ∀ r ∈ rect, r.Fits) :
    FLVOutput.rectBytes rect = rectangleBytes rect := by
  cases rect with
  | none => rfl
  | some r =>
      obtain ⟨x, y, width, height⟩ := fits r rfl
      rw [FLVOutput.rectBytes, rectangleBytes, coordinate_eq x,
        coordinate_eq y, coordinate_eq width, coordinate_eq height]
      rfl

inductive PackageCall where
  | packageVideoFrame (videoPacket : Bytes) (ts : UInt32) (bIsKeyFrame : Bool)
      (videoRect : Option VideoRect)
  | packageAudioFrame (audioPacket : Bytes) (ts : UInt32)
deriving DecidableEq, Repr

namespace PackageCall

def payload : PackageCall → Bytes
  | .packageVideoFrame videoPacket _ _ _ => videoPacket
  | .packageAudioFrame audioPacket _ => audioPacket

def ts : PackageCall → UInt32
  | .packageVideoFrame _ ts _ _ => ts
  | .packageAudioFrame _ ts => ts

def tagType : PackageCall → UInt8
  | .packageVideoFrame .. => TYPE_VIDEO_DATA
  | .packageAudioFrame .. => TYPE_AUDIO_DATA

def kind : PackageCall → EventKind
  | .packageVideoFrame .. => .videoData
  | .packageAudioFrame .. => .audioData

/-- Codec byte, rectangle and payload. -/
def body (acid : UInt8) : PackageCall → Bytes
  | .packageVideoFrame videoPacket _ bIsKeyFrame videoRect =>
      [if bIsKeyFrame then 0x18 else 0x28] ++ rectangleBytes videoRect ++
        videoPacket
  | .packageAudioFrame audioPacket _ =>
      [if acid = kMP316kHz then 0xfe else if acid = kMP3 then 0x2f else 0xbe] ++
        audioPacket

def tag (acid : UInt8) (call : PackageCall) : Bytes :=
  wireTag call.tagType call.ts (call.body acid)

/-- A short payload, and a rectangle with 16-bit coordinates. -/
def Fits : PackageCall → Prop
  | .packageVideoFrame videoPacket _ _ videoRect =>
      videoPacket.length < 16777216 - 9 ∧ ∀ r ∈ videoRect, r.Fits
  | .packageAudioFrame audioPacket _ => audioPacket.length < 16777216 - 9

theorem length_body_lt {call : PackageCall} (fits : call.Fits)
    (acid : UInt8) : (call.body acid).length < 16777216 := by
  cases call with
  | packageVideoFrame videoPacket ts bIsKeyFrame videoRect =>
      have short := fits.1
      simp only [body, rectangleBytes, List.length_append, length_toBE,
        List.length_cons, List.length_nil]
      omega
  | packageAudioFrame audioPacket ts =>
      have short : audioPacket.length < 16777216 - 9 := fits
      simp only [body, List.length_append, List.length_cons, List.length_nil]
      omega

end PackageCall

namespace FLVOutput

def package (o : FLVOutput) : PackageCall → Except Abort (Bytes × FLVOutput)
  | .packageVideoFrame videoPacket ts bIsKeyFrame videoRect =>
      o.packageVideoFrame videoPacket ts bIsKeyFrame videoRect
  | .packageAudioFrame audioPacket ts => o.packageAudioFrame audioPacket ts

theorem package_eq (o : FLVOutput) {call : PackageCall} (fits : call.Fits) :
    o.package call = .ok (o.withHeader (call.tag o.acid)) := by
  have small := PackageCall.length_body_lt fits o.acid
  cases call with
  | packageVideoFrame videoPacket ts bIsKeyFrame videoRect =>
      have length : UInt32.ofNat videoPacket.length + 9 =
          UInt32.ofNat (PackageCall.body o.acid
            (.packageVideoFrame videoPacket ts bIsKeyFrame
              videoRect)).length := by
        simp only [PackageCall.body, rectangleBytes, List.length_append,
          length_toBE, List.length_cons, List.length_nil]
        rw [Nat.add_comm, UInt32.ofNat_add]
        rfl
      have written := newBuffer_wireTag TYPE_VIDEO_DATA ts
        [[if bIsKeyFrame then 0x18 else 0x28], rectBytes videoRect,
          videoPacket]
        small
        (by
          rw [rectBytes_eq fits.2]
          simp only [PackageCall.body, List.flatten_cons, List.flatten_nil,
            List.append_nil, List.append_assoc])
      rw [← length] at written
      rw [package, packageVideoFrame]
      exact congrArg (fun frame => frame.bind fun frame =>
        .ok (o.withHeader frame)) written
  | packageAudioFrame audioPacket ts =>
      have length : UInt32.ofNat audioPacket.length + 1 =
          UInt32.ofNat (PackageCall.body o.acid
            (.packageAudioFrame audioPacket ts)).length := by
        simp only [PackageCall.body, List.length_append, List.length_cons,
          List.length_nil]
        rw [Nat.add_comm, UInt32.ofNat_add]
        rfl
      have written := newBuffer_wireTag TYPE_AUDIO_DATA ts
        [[o.audioTagByte], audioPacket] small
        (by
          simp only [PackageCall.body, audioTagByte, List.flatten_cons,
            List.flatten_nil, List.append_nil]
          rfl)
      rw [← length] at written
      rw [package, packageAudioFrame]
      exact congrArg (fun frame => frame.bind fun frame =>
        .ok (o.withHeader frame)) written

/-- Successive calls on one writer: their results. -/
def packageAll : FLVOutput → List PackageCall → Except Abort (List Bytes)
  | _, [] => .ok []
  | o, call :: rest => do
      let (result, o) ← o.package call
      let later ← o.packageAll rest
      return result :: later

theorem packageAll_sent (calls : List PackageCall) :
    ∀ o : FLVOutput, o.flvHeaderSent = true → (∀ call ∈ calls, call.Fits) →
      o.packageAll calls = .ok (calls.map (PackageCall.tag o.acid)) := by
  induction calls with
  | nil =>
      intro o _ _
      rfl
  | cons call rest inductionHypothesis =>
      intro o sent fits
      have plain : o.withHeader (call.tag o.acid) = (call.tag o.acid, o) :=
        if_pos sent
      rw [packageAll, o.package_eq (fits call List.mem_cons_self), plain]
      simp only [bind, Except.bind]
      rw [inductionHypothesis o sent fun other member =>
        fits other (List.mem_cons_of_mem call member)]
      rfl

/-- What the first frame has in front of it. -/
def lead (k : Nat) : Bytes :=
  if k = 0 then flvHeader else []

/-- The header goes out with the first result and with no other. -/
theorem packageAll_eq (acid : UInt8) {calls : List PackageCall}
    (fits : ∀ call ∈ calls, call.Fits) :
    ∃ results, packageAll { acid := acid } calls = .ok results ∧
      results.length = calls.length ∧
      ∀ k call, calls[k]? = some call →
        results[k]? = some (lead k ++ call.tag acid) := by
  cases calls with
  | nil =>
      refine ⟨[], rfl, rfl, ?_⟩
      intro k call atIndex
      simp at atIndex
  | cons call rest =>
      have firstFits := fits call List.mem_cons_self
      refine ⟨(flvHeader ++ call.tag acid) ::
        rest.map (PackageCall.tag acid), ?_, by simp, ?_⟩
      · rw [packageAll, package_eq _ firstFits]
        have later := packageAll_sent rest
          { acid := acid, flvHeaderSent := true } rfl fun other member =>
            fits other (List.mem_cons_of_mem call member)
        exact congrArg (fun results => results.bind fun results =>
          .ok ((flvHeader ++ call.tag acid) :: results)) later
      · intro k other atIndex
        cases k with
        | zero =>
            cases atIndex
            rfl
        | succ k =>
            rw [List.getElem?_cons_succ] at atIndex ⊢
            rw [List.getElem?_map, atIndex]
            rfl

end FLVOutput

/-! ## Delivery -/

namespace GroupMixer

/-- The message that a packaged packet comes back as. -/
def packagedMessage (streamId : Int) (acid : UInt8) (call : PackageCall) :
    FrameCall :=
  .handleMessageReceived
    (newPacket streamId call.tagType call.kind
      (UInt32.ofNat (call.body acid).length) call.ts (call.body acid))

/-- The data of the metadata tag inside the header. -/
def metadataBody : Bytes :=
  (flvHeader.drop 24).take 291

def metadataMessage (streamId : Int) : FrameCall :=
  .handleMessageReceived
    (newPacket streamId TYPE_STREAM_METADATA .notify 291 0 metadataBody)

theorem flvHeader_eq :
    flvHeader =
      flvHeader.take 13 ++ wireTag TYPE_STREAM_METADATA 0 metadataBody := by
  decide +kernel

theorem onTags_end (streamId : Int) (flvFrame : Bytes) (flvFrameLen : Nat)
    (turns : Nat) :
    onTags streamId flvFrame flvFrameLen false turns flvFrameLen =
      ([], .ok flvFrameLen) := by
  cases turns with
  | zero => rfl
  | succ turns => rw [onTags, if_neg (Nat.lt_irrefl _)]

/-- A turn of the loop on a tag of a known type. -/
theorem onTags_wireTag (streamId : Int) (before after : Bytes)
    (tagType : UInt8) (kind : EventKind) (ts : UInt32) (body : Bytes)
    (flvFrameLen turns : Nat) (small : body.length < 16777216)
    (known : eventKind tagType = some kind)
    (within : before.length < flvFrameLen) :
    onTags streamId (before ++ (wireTag tagType ts body ++ after)) flvFrameLen
        false (turns + 1) before.length =
      let later := onTags streamId
        (before ++ (wireTag tagType ts body ++ after)) flvFrameLen false turns
        (before ++ wireTag tagType ts body).length
      (.handleMessageReceived (newPacket streamId tagType kind
        (UInt32.ofNat body.length) ts body) :: later.1, later.2) := by
  rw [onTags, if_pos within, onTag_wireTag streamId before after ts small known]
  rfl

theorem startsWithFlv_wireTag {tagType : UInt8} (ts : UInt32)
    (body after : Bytes) (other : tagType ≠ 70) :
    startsWithFlv (wireTag tagType ts body ++ after) = .ok false := by
  have first : arrayAt (wireTag tagType ts body ++ after) 0 = .ok tagType :=
    rfl
  rw [startsWithFlv, first]
  simp only [bind, Except.bind]
  rw [if_neg other]
  rfl

theorem startsWithFlv_header (bytes : Bytes) :
    startsWithFlv (flvHeader ++ bytes) = .ok true :=
  rfl

/-- A frame of one tag gives one message. -/
theorem onFrameGenerated_wireTag {streamId : Int} (mapped : streamId ≠ -1)
    {tagType : UInt8} {kind : EventKind} (ts : UInt32) {body : Bytes}
    (small : body.length < 16777216) (known : eventKind tagType = some kind)
    (stale : Bytes) :
    onFrameGenerated streamId (wireTag tagType ts body ++ stale)
        (wireTag tagType ts body).length false =
      ([.handleMessageReceived (newPacket streamId tagType kind
          (UInt32.ofNat body.length) ts body)],
        .ok (wireTag tagType ts body).length) := by
  have noHeader : tagType ≠ 70 := by
    rintro rfl
    cases known
  have length := length_wireTag tagType ts body
  rw [onFrameGenerated, if_pos mapped,
    startsWithFlv_wireTag ts _ stale noHeader]
  obtain ⟨turns, enough⟩ : ∃ turns,
      (wireTag tagType ts body).length = turns + 1 :=
    ⟨14 + body.length, by omega⟩
  have turn := onTags_wireTag streamId [] stale tagType kind ts body
    (turns + 1) turns small known (by simp)
  simp only [List.nil_append, List.length_nil, enough] at turn
  simp only [Bool.false_eq_true, if_false, enough]
  rw [turn, onTags_end]

theorem onFrameGenerated_tag {streamId : Int} (mapped : streamId ≠ -1)
    (acid : UInt8) {call : PackageCall} (fits : call.Fits) (stale : Bytes) :
    onFrameGenerated streamId (call.tag acid ++ stale)
        (call.tag acid).length false =
      ([packagedMessage streamId acid call],
        .ok (call.tag acid).length) := by
  have small := PackageCall.length_body_lt fits acid
  have known : eventKind call.tagType = some call.kind := by
    cases call <;> rfl
  exact onFrameGenerated_wireTag mapped call.ts small known stale

/-- The first frame gives the message of its metadata tag, too. -/
theorem onFrameGenerated_first {streamId : Int} (mapped : streamId ≠ -1)
    (acid : UInt8) {call : PackageCall} (fits : call.Fits) (stale : Bytes) :
    onFrameGenerated streamId (flvHeader ++ call.tag acid ++ stale)
        (flvHeader ++ call.tag acid).length false =
      ([metadataMessage streamId, packagedMessage streamId acid call],
        .ok (flvHeader ++ call.tag acid).length) := by
  have small := PackageCall.length_body_lt fits acid
  have known : eventKind call.tagType = some call.kind := by
    cases call <;> rfl
  have length := length_wireTag call.tagType call.ts (call.body acid)
  have headerLength : flvHeader.length = 319 := by decide +kernel
  have whole : (flvHeader ++ call.tag acid).length =
      (332 + (call.body acid).length) + 1 + 1 := by
    rw [List.length_append, headerLength, PackageCall.tag, length]
    omega
  have bodyLength : metadataBody.length = 291 := by decide +kernel
  have frontLength : (flvHeader.take 13).length = 13 := by decide +kernel
  have splitFirst : flvHeader ++ call.tag acid ++ stale =
      flvHeader.take 13 ++ (wireTag TYPE_STREAM_METADATA 0 metadataBody ++
        (call.tag acid ++ stale)) := by
    conv_lhs => rw [flvHeader_eq]
    simp only [List.append_assoc]
  have first := onTags_wireTag streamId (flvHeader.take 13)
    (call.tag acid ++ stale) TYPE_STREAM_METADATA .notify 0 metadataBody
    (flvHeader ++ call.tag acid).length (332 + (call.body acid).length + 1)
    (by omega) rfl (by omega)
  have second := onTags_wireTag streamId flvHeader stale call.tagType call.kind
    call.ts (call.body acid) (flvHeader ++ call.tag acid).length
    (332 + (call.body acid).length) small known (by omega)
  rw [← splitFirst, ← flvHeader_eq] at first
  have splitSecond : flvHeader ++
      (wireTag call.tagType call.ts (call.body acid) ++ stale) =
        flvHeader ++ call.tag acid ++ stale := by
    rw [List.append_assoc]
    rfl
  have ended : (flvHeader ++
      wireTag call.tagType call.ts (call.body acid)).length =
        (flvHeader ++ call.tag acid).length := rfl
  rw [splitSecond, ended, onTags_end] at second
  rw [onFrameGenerated, if_pos mapped, List.append_assoc,
    startsWithFlv_header, ← List.append_assoc]
  simp only [if_true]
  rw [second, frontLength, bodyLength] at first
  rw [← whole] at first
  exact first

/-- The size that the last four bytes of a tag give. -/
def previousTagSize (tag : Bytes) : Option Nat :=
  match tag.drop (tag.length - 4) with
  | [b1, b2, b3, b4] =>
      some (((b1.toNat * 256 + b2.toNat) * 256 + b3.toNat) * 256 + b4.toNat)
  | _ => none

theorem previousTagSize_wireTag (tagType : UInt8) (ts : UInt32) {body : Bytes}
    (small : body.length < 16777216) :
    previousTagSize (wireTag tagType ts body) = some (11 + body.length) := by
  have length := length_wireTag tagType ts body
  have front : ([tagType] ++ toBE 3 body.length ++ toBE 3 ts.toNat ++
      toBE 1 (ts.toNat / 16777216) ++ [0, 0, 0] ++ body).length =
        (wireTag tagType ts body).length - 4 := by
    rw [length]
    simp only [List.length_append, length_toBE, List.length_cons,
      List.length_nil]
    omega
  have last : (wireTag tagType ts body).drop
      ((wireTag tagType ts body).length - 4) = toBE 4 (11 + body.length) := by
    conv_lhs => rw [← front, wireTag]
    exact List.drop_left
  have bytes (n : Nat) : toBE 4 n =
      [UInt8.ofNat (n / 256 / 256 / 256), UInt8.ofNat (n / 256 / 256),
        UInt8.ofNat (n / 256), UInt8.ofNat n] := rfl
  rw [previousTagSize, last, bytes]
  simp only [UInt8.toNat_ofNat']
  congr 1
  omega

/-- What the `k`-th of successive calls gives, and what `GroupMixer` makes of
it. -/
structure Decodable (acid : UInt8) (k : Nat) (call : PackageCall)
    (result : Bytes) : Prop where
  written : result = FLVOutput.lead k ++ call.tag acid
  metadataTagSize :
    previousTagSize (flvHeader.drop 13) = some (11 + metadataBody.length)
  tagSize :
    previousTagSize (call.tag acid) = some (11 + (call.body acid).length)
  delivered : ∀ (streamId : Int) (stale : Bytes), streamId ≠ -1 →
    onFrameGenerated streamId (result ++ stale) result.length false =
      ((if k = 0 then [metadataMessage streamId] else []) ++
        [packagedMessage streamId acid call], .ok result.length)

theorem metadataTagSize_eq :
    previousTagSize (flvHeader.drop 13) = some (11 + metadataBody.length) := by
  decide +kernel

/-- Whatever is packaged, each result decodes to the message packaged, with the
metadata of the header before the first. -/
theorem packageAll_decodable (acid : UInt8) (calls : List PackageCall)
    (fits : ∀ call ∈ calls, call.Fits) :
    ∃ results, FLVOutput.packageAll { acid := acid } calls = .ok results ∧
      results.length = calls.length ∧
      ∀ k call result, calls[k]? = some call → results[k]? = some result →
        Decodable acid k call result := by
  rcases FLVOutput.packageAll_eq acid fits with
    ⟨results, packaged, length, written⟩
  refine ⟨results, packaged, length, ?_⟩
  intro k call result called resulted
  have callFits := fits call (List.mem_of_getElem? called)
  have whole : result = FLVOutput.lead k ++ call.tag acid := by
    have same := written k call called
    rw [resulted] at same
    exact Option.some.inj same
  constructor
  · exact whole
  · exact metadataTagSize_eq
  · exact previousTagSize_wireTag _ _ (PackageCall.length_body_lt callFits acid)
  · intro streamId stale mapped
    subst whole
    cases k with
    | zero => exact onFrameGenerated_first mapped acid callFits stale
    | succ k => exact onFrameGenerated_tag mapped acid callFits stale

/-- A key frame at one corner, and a sound packet after it. -/
def packagedSample : List PackageCall :=
  [.packageVideoFrame [1, 2, 3] 40 true (some ⟨0, 0, 320, 240⟩),
    .packageAudioFrame [4, 5] 16777300]

theorem packageAll_decodable_sample :
    ∃ results, FLVOutput.packageAll { acid := kMP3 } packagedSample =
        .ok results ∧ results.length = packagedSample.length ∧
      ∀ k call result, packagedSample[k]? = some call →
        results[k]? = some result → Decodable kMP3 k call result := by
  apply packageAll_decodable
  intro call member
  rcases List.mem_pair.mp member with rfl | rfl
  · constructor
    · decide
    · intro r hr
      cases hr
      decide
  · exact (by decide : 2 < 16777216 - 9)

end GroupMixer

end GroupVoip
