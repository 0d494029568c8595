import GroupVoip.FLVTagFormat
import GroupVoip.Library.Checked

/-!
# The tag parser under audit

The functions of the parser once more, stopped at the first request beyond the
bytes, the first index beyond a string, the first counter that would wrap and
the first payload that is too large.  Where the audit passes, the parser does
what the audited functions do.
-/

namespace GroupVoip

open Library.Checked Library.Runs Library.WireBytes

inductive Violation where
  | readsOutside
  | indexesOutside
  | sizeWraps
  | payloadTooLarge
  | stops (abort : Abort)
deriving DecidableEq, Repr

namespace Audit

/-! ## The checks -/

def readBits (p : BitStreamParser) (nBits : Nat) :
    Except Violation (UInt32 × BitStreamParser) :=
  if p.offset + nBits ≤ p.byteStream.length * 8 then .ok (p.readBits nBits)
  else .error .readsOutside

def readByte (p : BitStreamParser) :
    Except Violation (UInt8 × BitStreamParser) :=
  if p.offset + 8 ≤ p.byteStream.length * 8 then .ok p.readByte
  else .error .readsOutside

def readBytes (p : BitStreamParser) (t : Nat) :
    Except Violation (Bytes × BitStreamParser) :=
  if p.offset / 8 + t ≤ p.byteStream.length then
    .ok ((p.byteStream.drop (p.offset / 8)).take t,
      { p with offset := p.offset + t * 8 })
  else .error .readsOutside

def charAt (s : Bytes) (i : Nat) : Except Violation UInt8 :=
  if i < s.length then .ok (s.getD i 0) else .error .indexesOutside

/-- `dataSize -= taken`. -/
def subtract (dataSize taken : UInt64) : Except Violation UInt64 :=
  if taken ≤ dataSize then .ok (dataSize - taken) else .error .sizeWraps

/-- A payload is no larger than the tag and the padding. -/
def allocate (strFlvTag payload : Bytes) : Except Violation Unit :=
  if payload.length ≤ strFlvTag.length + stBytesPadding.length then .ok ()
  else .error .payloadTooLarge

def assertThat (condition : Bool) (asked : Assertion) : Except Violation Unit :=
  if condition then .ok () else .error (.stops (.assertion asked))

/-! ## The functions -/

def readTimestamp (bsParser : BitStreamParser) :
    Except Violation (UInt32 × BitStreamParser) := do
  let (tempStr, bsParser) ← readBytes bsParser 3
  let (tempByte, bsParser) ← readByte bsParser
  let low ← charAt tempStr 2
  let middle ← charAt tempStr 1
  let high ← charAt tempStr 0
  let (_, bsParser) ← readBytes bsParser 3
  return (UInt32.ofNat (ofLE [low, middle, high, tempByte]), bsParser)

def u16Length (s : Bytes) : Except Violation UInt16 := do
  let first ← charAt s 0
  let second ← charAt s 1
  return (first.toUInt16 <<< 8) ||| second.toInt8.toInt16.toUInt16

def readSpsPps (bsParser : BitStreamParser) : Except Violation Bytes := do
  let (_, bsParser) ← readBytes bsParser 6
  let (spsLenStr, bsParser) ← readBytes bsParser 2
  let spsLen ← u16Length spsLenStr
  let (sps, bsParser) ← readBytes bsParser spsLen.toNat
  let (_, bsParser) ← readBytes bsParser 1
  let (ppsLenStr, bsParser) ← readBytes bsParser 2
  let ppsLen ← u16Length ppsLenStr
  let (pps, _) ← readBytes bsParser ppsLen.toNat
  return naluStarterCode ++ sps ++ naluStarterCode ++ pps

def readNalu (bsParser : BitStreamParser) :
    Except Violation (UInt32 × Bytes × BitStreamParser) := do
  let (lenStr, bsParser) ← readBytes bsParser 4
  let b3 ← charAt lenStr 3
  let b2 ← charAt lenStr 2
  let b1 ← charAt lenStr 1
  let b0 ← charAt lenStr 0
  let sliceSize := UInt32.ofNat (ofLE [b3, b2, b1, b0])
  let (slice, bsParser) ← readBytes bsParser sliceSize.toNat
  return (sliceSize, slice, bsParser)

def readNalus : Nat → BitStreamParser → UInt64 → Bytes →
    Except Violation Bytes
  | 0, _, dataSize, inputData =>
      if dataSize > 0 then .error .readsOutside else .ok inputData
  | turns + 1, bsParser, dataSize, inputData =>
      if dataSize > 0 then do
        let (sliceSize, slice, bsParser) ← readNalu bsParser
        let inputData :=
          if sliceSize > 0 then inputData ++ (naluStarterCode ++ slice)
          else inputData
        let dataSize ← subtract dataSize (4 + sliceSize).toUInt64
        readNalus turns bsParser dataSize inputData
      else .ok inputData

def readVideoData (bsParser : BitStreamParser) (avcPacketType : UInt8)
    (dataSize : UInt64) : Except Violation (Bytes × SpecialProperty) :=
  if avcPacketType = kAVCSeqHeader then do
    return (← readSpsPps bsParser, .kSpsPps)
  else if avcPacketType = kAVCNalu then do
    let turns := bsParser.byteStream.length + 1
    let inputData ← readNalus turns bsParser dataSize []
    return (inputData ++ stBytesPadding, .kRawData)
  else if avcPacketType = kAVCEndOfSeq then
    return ([], .kEndSeq)
  else
    return ([], .kRawData)

def readVideoBody (curSpsPps : Bytes) (bsParser : BitStreamParser)
    (dataSize : UInt64) : Except Violation TagBody := do
  let (frameType, bsParser) ← readBits bsParser 4
  let (codecId, bsParser) ← readBits bsParser 4
  let dataSize ← subtract dataSize 1
  assertThat (codecId.toUInt8 = kAVCVideoPacket) .avcVideoOnly
  let (avcPacketType, bsParser) ← readByte bsParser
  let (_, bsParser) ← readBytes bsParser 3
  let dataSize ← subtract dataSize 4
  let (inputData, sp) ← readVideoData bsParser avcPacketType dataSize
  allocate bsParser.byteStream inputData
  let ready := videoReady curSpsPps inputData sp
  return {
    accessUnit :=
      { st := .kVideoStreamType
        isKey := frameType = 1
        ctype := codecId.toUInt8
        sp := sp
        payload := if ready then some inputData else none }
    frameReady := ready
    curSpsPps := if ready && sp = .kSpsPps then inputData else curSpsPps }

def readAudioProperty (bsParser : BitStreamParser) (soundFormat : UInt32)
    (dataSize : UInt64) :
    Except Violation (SpecialProperty × UInt64 × BitStreamParser) :=
  if soundFormat.toUInt8 = kAAC then do
    let (aacPacketType, bsParser) ← readByte bsParser
    let sp := if aacPacketType = kAACSeqHeader then .kSeqHeader else .kRawData
    let dataSize ← subtract dataSize 1
    return (sp, dataSize, bsParser)
  else
    return (.kRawData, dataSize, bsParser)

def readAudioPayload (bsParser : BitStreamParser) (dataSize : UInt64) :
    Except Violation (Option Bytes) :=
  if dataSize > 0 then do
    let (payload, bsParser) ← readBytes bsParser dataSize.toNat
    allocate bsParser.byteStream payload
    return some payload
  else return none

def readAudioBody (curSpsPps : Bytes) (bsParser : BitStreamParser)
    (dataSize : UInt64) : Except Violation TagBody := do
  let (soundFormat, bsParser) ← readBits bsParser 4
  let (soundRate, bsParser) ← readBits bsParser 2
  let (soundSize, bsParser) ← readBits bsParser 1
  let (soundType, bsParser) ← readBits bsParser 1
  let dataSize ← subtract dataSize 1
  let (sp, dataSize, bsParser) ←
    readAudioProperty bsParser soundFormat dataSize
  let payload ← readAudioPayload bsParser dataSize
  return {
    accessUnit :=
      { st := .kAudioStreamType
        ctype := ((soundFormat <<< 4) ||| (soundRate <<< 2) |||
          (soundSize <<< 1) ||| soundType).toUInt8
        isKey := true
        sp := sp
        payload := payload }
    frameReady := payload.isSome
    curSpsPps := curSpsPps }

def readBody (curSpsPps : Bytes) (st : StreamType)
    (bsParser : BitStreamParser) (dataSize : UInt64) :
    Except Violation TagBody :=
  match st with
  | .kVideoStreamType => readVideoBody curSpsPps bsParser dataSize
  | .kAudioStreamType => readAudioBody curSpsPps bsParser dataSize
  | _ => return {
      accessUnit := { st := st }, frameReady := false, curSpsPps := curSpsPps }

def readTag (curSpsPps : Bytes) (tag : FLVTag) :
    Except Violation (UInt32 × Option TagBody) := do
  let dataSize ← subtract tag.curFlvTagSize.toUInt64 4
  let (timestamp, bsParser) ← readTimestamp ⟨tag.strFlvTag, 0⟩
  let dataSize ← subtract dataSize 7
  if dataSize > 0 then
    let body ← readBody curSpsPps tag.curStreamType bsParser dataSize
    return (timestamp, some body)
  else
    return (timestamp, none)

def parseNextFLVFrame (clock : FLVClock) (globalAudioTimestamp : UInt32)
    (tag : FLVTag) : Except Violation (FLVClock × Option AccessUnit) := do
  match ← readTag clock.curSpsPps tag with
  | (timestamp, some body) =>
      return clock.deliver globalAudioTimestamp timestamp body
  | (_, none) => return (clock, none)

/-! ## What passes is what the parser does -/

theorem readBits_checked {p q : BitStreamParser} {nBits : Nat} {bits : UInt32}
    (passes : readBits p nBits = .ok (bits, q)) :
    p.readBits nBits = (bits, q) := by
  rw [readBits] at passes
  split at passes
  · exact Except.ok.inj passes
  · cases passes

theorem readByte_checked {p q : BitStreamParser} {b : UInt8}
    (passes : readByte p = .ok (b, q)) : p.readByte = (b, q) := by
  rw [readByte] at passes
  split at passes
  · exact Except.ok.inj passes
  · cases passes

theorem readBytes_checks (p : BitStreamParser) (t : Nat) :
    Checks (readBytes p t) (p.readBytes t) := by
  intro read passes
  rw [readBytes] at passes
  split at passes
  · rename_i inside
    rw [BitStreamParser.readBytes_ok (by omega)]
    exact congrArg Except.ok (Except.ok.inj passes)
  · cases passes

/-- A request that passes is answered in full. -/
theorem length_readBytes {p q : BitStreamParser} {t : Nat} {bytes : Bytes}
    (passes : readBytes p t = .ok (bytes, q)) : bytes.length = t := by
  rw [readBytes] at passes
  split at passes
  · cases passes
    rw [List.length_take, List.length_drop]
    omega
  · cases passes

theorem charAt_checks (s : Bytes) (i : Nat) :
    Checks (charAt s i) (GroupVoip.charAt s i) := by
  intro b passes
  rw [charAt] at passes
  split at passes
  · rename_i inside
    rw [GroupVoip.charAt, if_pos inside]
    exact congrArg Except.ok (Except.ok.inj passes)
  · cases passes

theorem assertThat_checks (condition : Bool) (asked : Assertion) :
    Checks (assertThat condition asked)
      (GroupVoip.assertThat condition asked) := by
  cases condition with
  | false => exact Checks.stopped _ _
  | true => exact Checks.returns ()

theorem subtract_eq {dataSize taken left : UInt64}
    (passes : subtract dataSize taken = .ok left) :
    left = dataSize - taken := by
  rw [subtract] at passes
  split at passes
  · exact (Except.ok.inj passes).symm
  · cases passes

theorem readTimestamp_checks (p : BitStreamParser) :
    Checks (readTimestamp p) (GroupVoip.readTimestamp p) := by
  apply (readBytes_checks p 3).bind
  intro ⟨tempStr, q⟩
  apply Checks.check
  intro ⟨tempByte, q'⟩ passes
  dsimp only
  rw [readByte_checked passes]
  apply (charAt_checks _ 2).bind
  intro low
  apply (charAt_checks _ 1).bind
  intro middle
  apply (charAt_checks _ 0).bind
  intro high
  apply (readBytes_checks _ 3).bind
  intro skipped
  exact Checks.returns _

theorem u16Length_checks (s : Bytes) :
    Checks (u16Length s) (GroupVoip.u16Length s) := by
  apply (charAt_checks s 0).bind
  intro first
  apply (charAt_checks s 1).bind
  intro second
  exact Checks.returns _

theorem readSpsPps_checks (p : BitStreamParser) :
    Checks (readSpsPps p) (GroupVoip.readSpsPps p) := by
  apply (readBytes_checks p 6).bind
  intro ⟨_, p⟩
  apply (readBytes_checks p 2).bind
  intro ⟨spsLenStr, p⟩
  apply (u16Length_checks spsLenStr).bind
  intro spsLen
  apply (readBytes_checks p spsLen.toNat).bind
  intro ⟨sps, p⟩
  apply (readBytes_checks p 1).bind
  intro ⟨_, p⟩
  apply (readBytes_checks p 2).bind
  intro ⟨ppsLenStr, p⟩
  apply (u16Length_checks ppsLenStr).bind
  intro ppsLen
  apply (readBytes_checks p ppsLen.toNat).bind
  intro ⟨pps, p⟩
  exact Checks.returns _

theorem readNalu_checks (p : BitStreamParser) :
    Checks (readNalu p) (GroupVoip.readNalu p) := by
  apply (readBytes_checks p 4).bind
  intro ⟨lenStr, p⟩
  apply (charAt_checks lenStr 3).bind
  intro b3
  apply (charAt_checks lenStr 2).bind
  intro b2
  apply (charAt_checks lenStr 1).bind
  intro b1
  apply (charAt_checks lenStr 0).bind
  intro b0
  apply (readBytes_checks p _).bind
  intro ⟨slice, p⟩
  exact Checks.returns _

theorem readNalus_checks (turns : Nat) :
    ∀ (p : BitStreamParser) (dataSize : UInt64) (inputData : Bytes),
      Checks (readNalus turns p dataSize inputData)
        (GroupVoip.readNalus turns p dataSize inputData) := by
  induction turns with
  | zero =>
      intro p dataSize inputData
      rw [readNalus, GroupVoip.readNalus]
      apply Checks.branch
      · exact fun _ => Checks.stopped _ _
      · exact fun _ => Checks.returns _
  | succ turns inductionHypothesis =>
      intro p dataSize inputData
      rw [readNalus, GroupVoip.readNalus]
      apply Checks.branch
      · intro _
        apply (readNalu_checks p).bind
        intro ⟨sliceSize, slice, p⟩
        apply Checks.check
        intro left passes
        rw [subtract_eq passes]
        exact inductionHypothesis p _ _
      · exact fun _ => Checks.returns _

theorem readVideoData_checks (p : BitStreamParser) (avcPacketType : UInt8)
    (dataSize : UInt64) :
    Checks (readVideoData p avcPacketType dataSize)
      (GroupVoip.readVideoData p avcPacketType dataSize) := by
  apply Checks.branch
  · intro _
    apply (readSpsPps_checks p).bind
    intro inputData
    exact Checks.returns _
  · intro _
    apply Checks.branch
    · intro _
      apply (readNalus_checks _ p dataSize []).bind
      intro inputData
      exact Checks.returns _
    · intro _
      apply Checks.branch
      · exact fun _ => Checks.returns _
      · exact fun _ => Checks.returns _

theorem readVideoBody_checks (curSpsPps : Bytes) (p : BitStreamParser)
    (dataSize : UInt64) :
    Checks (readVideoBody curSpsPps p dataSize)
      (GroupVoip.readVideoBody curSpsPps p dataSize) := by
  apply Checks.check
  intro ⟨frameType, p1⟩ passes
  apply Checks.check
  intro ⟨codecId, p2⟩ passes2
  apply Checks.check
  intro left isLeft
  rw [GroupVoip.readVideoBody, readBits_checked passes]
  dsimp only at passes2 ⊢
  rw [readBits_checked passes2]
  dsimp only
  apply (assertThat_checks _ _).bind
  intro _
  apply Checks.check
  intro ⟨avcPacketType, p3⟩ passes3
  rw [readByte_checked passes3]
  dsimp only
  apply (readBytes_checks p3 3).bind
  intro ⟨_, p4⟩
  apply Checks.check
  intro left2 isLeft2
  rw [subtract_eq isLeft2, subtract_eq isLeft]
  apply (readVideoData_checks p4 avcPacketType _).bind
  intro ⟨inputData, sp⟩
  apply Checks.check
  intro _ _
  exact Checks.returns _

theorem readAudioProperty_checks {p q : BitStreamParser} {soundFormat : UInt32}
    {dataSize left : UInt64} {sp : SpecialProperty}
    (passes : readAudioProperty p soundFormat dataSize = .ok (sp, left, q)) :
    GroupVoip.readAudioProperty p soundFormat dataSize = (sp, left, q) := by
  rw [readAudioProperty] at passes
  split at passes
  · rename_i isAac
    obtain ⟨⟨aacPacketType, p1⟩, isRead, passes⟩ := bind_ok.mp passes
    obtain ⟨left', isLeft, passes⟩ := bind_ok.mp passes
    rw [GroupVoip.readAudioProperty, if_pos isAac, readByte_checked isRead,
      ← subtract_eq isLeft]
    exact Except.ok.inj passes
  · rename_i notAac
    rw [GroupVoip.readAudioProperty, if_neg notAac]
    exact Except.ok.inj passes

theorem readAudioPayload_checks (p : BitStreamParser) (dataSize : UInt64) :
    Checks (readAudioPayload p dataSize)
      (GroupVoip.readAudioPayload p dataSize) := by
  apply Checks.branch
  · intro _ r passes
    obtain ⟨⟨payload, q⟩, isRead, passes⟩ := bind_ok.mp passes
    obtain ⟨_, _, passes⟩ := bind_ok.mp passes
    have whole : ¬ payload.length < dataSize.toNat := by
      rw [length_readBytes isRead]
      exact Nat.lt_irrefl _
    refine bind_ok.mpr ⟨(payload, q), readBytes_checks _ _ _ isRead, ?_⟩
    dsimp only
    rw [if_neg whole]
    exact congrArg Except.ok (Except.ok.inj passes)
  · exact fun _ => Checks.returns _

theorem readAudioBody_checks (curSpsPps : Bytes) (p : BitStreamParser)
    (dataSize : UInt64) :
    Checks (readAudioBody curSpsPps p dataSize)
      (GroupVoip.readAudioBody curSpsPps p dataSize) := by
  apply Checks.check
  intro ⟨soundFormat, p1⟩ isFormat
  apply Checks.check
  intro ⟨soundRate, p2⟩ isRate
  apply Checks.check
  intro ⟨soundSize, p3⟩ isSize
  apply Checks.check
  intro ⟨soundType, p4⟩ isType
  apply Checks.check
  intro left isLeft
  apply Checks.check
  intro ⟨sp, left2, p5⟩ isProperty
  rw [GroupVoip.readAudioBody, readBits_checked isFormat]
  dsimp only at isRate isSize isType isProperty ⊢
  rw [readBits_checked isRate]
  dsimp only
  rw [readBits_checked isSize]
  dsimp only
  rw [readBits_checked isType]
  dsimp only
  rw [← subtract_eq isLeft, readAudioProperty_checks isProperty]
  apply (readAudioPayload_checks p5 left2).bind
  intro payload
  exact Checks.returns _

theorem readBody_checks (curSpsPps : Bytes) (st : StreamType)
    (p : BitStreamParser) (dataSize : UInt64) :
    Checks (readBody curSpsPps st p dataSize)
      (GroupVoip.readBody curSpsPps st p dataSize) := by
  cases st with
  | kVideoStreamType => exact readVideoBody_checks curSpsPps p dataSize
  | kAudioStreamType => exact readAudioBody_checks curSpsPps p dataSize
  | kUnknownStreamType => exact Checks.returns _
  | kDataStreamType => exact Checks.returns _
  | unlisted value => exact Checks.returns _

theorem le_of_subtract {dataSize taken left : UInt64}
    (passes : subtract dataSize taken = .ok left) : taken ≤ dataSize := by
  rw [subtract] at passes
  split at passes
  · rename_i enough
    exact enough
  · cases passes

theorem toUInt64_sub_four {size : UInt32} (enough : 4 ≤ size.toUInt64) :
    (size - 4).toUInt64 = size.toUInt64 - 4 := by
  have four : 4 ≤ size := by
    rw [UInt64.le_iff_toNat_le, UInt32.toNat_toUInt64] at enough
    exact UInt32.le_iff_toNat_le.mpr enough
  apply UInt64.toNat_inj.mp
  rw [UInt32.toNat_toUInt64, UInt32.toNat_sub_of_le _ _ four,
    UInt64.toNat_sub_of_le _ _ enough, UInt32.toNat_toUInt64]
  rfl

theorem readTag_checks (curSpsPps : Bytes) (tag : FLVTag) :
    Checks (readTag curSpsPps tag) (GroupVoip.readTag curSpsPps tag) := by
  apply Checks.check
  intro left isLeft
  apply (readTimestamp_checks _).bind
  intro ⟨timestamp, p⟩
  apply Checks.check
  intro left2 isLeft2
  rw [subtract_eq isLeft2, subtract_eq isLeft,
    ← toUInt64_sub_four (le_of_subtract isLeft)]
  apply Checks.branch
  · intro _
    apply (readBody_checks curSpsPps tag.curStreamType p _).bind
    intro body
    exact Checks.returns _
  · exact fun _ => Checks.returns _

theorem parseNextFLVFrame_checks (clock : FLVClock)
    (globalAudioTimestamp : UInt32) (tag : FLVTag) :
    Checks (parseNextFLVFrame clock globalAudioTimestamp tag)
      (GroupVoip.parseNextFLVFrame clock globalAudioTimestamp tag) := by
  apply (readTag_checks clock.curSpsPps tag).bind
  intro ⟨timestamp, body⟩
  cases body with
  | none => exact Checks.returns _
  | some body => exact Checks.returns _

end Audit

end GroupVoip
