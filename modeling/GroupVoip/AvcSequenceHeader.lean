import GroupVoip.AvcTags
import GroupVoip.TagEffects

/-!
# AVC sequence headers

The parser puts the two bytes of a length together with the second one taken
as a signed number.  A length whose low byte has its top bit set is read as
one of the largest.
-/

namespace GroupVoip

open Library.Runs Library.WireBytes

/-! ## Lengths of two bytes -/

/-- The number that the parser reads where `n` is written. -/
def lengthAsRead (n : Nat) : Nat :=
  if n % 256 < 128 then n else 65280 + n % 256

/-- The lengths that are read as they are written: those with a small low
byte, and those with the largest high byte. -/
def LengthSurvives (n : Nat) : Prop :=
  n % 256 < 128 ∨ 65280 ≤ n

instance (n : Nat) : Decidable (LengthSurvives n) :=
  inferInstanceAs (Decidable (_ ∨ _))

theorem lengthAsRead_eq_iff {n : Nat} (fits : n < 65536) :
    lengthAsRead n = n ↔ LengthSurvives n := by
  rw [lengthAsRead, LengthSurvives]
  split <;> omega

theorem lt_lengthAsRead {n : Nat} (fits : n < 65536)
    (lost : ¬ LengthSurvives n) : n < lengthAsRead n := by
  rw [LengthSurvives] at lost
  rw [lengthAsRead, if_neg (by omega)]
  omega

theorem signed_byte (b : UInt8) :
    b.toInt8.toInt16.toUInt16 =
      if b.toNat < 128 then UInt16.ofNat b.toNat
      else UInt16.ofNat (65280 + b.toNat) := by
  have everyByte : ∀ n : Fin 256,
      (UInt8.ofNat n.val).toInt8.toInt16.toUInt16 =
        if n.val < 128 then UInt16.ofNat n.val
        else UInt16.ofNat (65280 + n.val) := by
    decide +kernel
  simpa using everyByte ⟨b.toNat, b.toNat_lt⟩

theorem highByte_toNat (b : UInt8) :
    (b.toUInt16 <<< 8).toNat = b.toNat * 256 := by
  have everyByte : ∀ n : Fin 256,
      ((UInt8.ofNat n.val).toUInt16 <<< 8).toNat = n.val * 256 := by
    decide +kernel
  simpa using everyByte ⟨b.toNat, b.toNat_lt⟩

/-- A sign that is set fills the whole high byte. -/
theorem or_topByte {a b : Nat} (small : a < 256) (below : b < 256) :
    (a * 256) ||| (65280 + b) = 65280 + b := by
  have everyByte : ∀ n : Fin 256, (n.val * 256) ||| 65280 = 65280 := by
    decide +kernel
  have top : 65280 + b = 65280 ||| b := (or_lowByte 255 below).symm
  rw [top, ← Nat.or_assoc]
  exact congrArg (· ||| b) (everyByte ⟨a, small⟩)

theorem u16Length_toBE {n : Nat} (fits : n < 65536) :
    ∃ len, u16Length (toBE 2 n) = .ok len ∧ len.toNat = lengthAsRead n := by
  have high : (UInt8.ofNat (n / 256)).toNat = n / 256 := by
    rw [UInt8.toNat_ofNat']
    omega
  have low : (UInt8.ofNat n).toNat = n % 256 := UInt8.toNat_ofNat'
  refine ⟨((UInt8.ofNat (n / 256)).toUInt16 <<< 8) |||
    (UInt8.ofNat n).toInt8.toInt16.toUInt16, rfl, ?_⟩
  rw [UInt16.toNat_or, highByte_toNat, signed_byte, high, low, lengthAsRead]
  have below : n % 256 < 256 := Nat.mod_lt n (by decide)
  split
  · rw [UInt16.toNat_ofNat', Nat.mod_eq_of_lt (by omega), or_lowByte _ below]
    omega
  · rw [UInt16.toNat_ofNat', Nat.mod_eq_of_lt (by omega),
      or_topByte (by omega) below]

/-! ## The record -/

/-- A decoder configuration record with one SPS and one PPS.  The first six
bytes are the version, the profile and the number of SPS; behind the PPS some
profiles have more. -/
structure AvcRecord where
  front : Bytes
  sps : Bytes
  pps : Bytes
  extension : Bytes
  length_front : front.length = 6
  length_sps : sps.length < 65536
  length_pps : pps.length < 65536

namespace AvcRecord

variable (record : AvcRecord)

def bytes : Bytes :=
  record.front ++ (toBE 2 record.sps.length ++ (record.sps ++
    ([1] ++ (toBE 2 record.pps.length ++ (record.pps ++ record.extension)))))

/-- What the decoder is to get. -/
def annexB : Bytes :=
  naluStarterCode ++ record.sps ++ naluStarterCode ++ record.pps

/-- Both lengths are read as they are written. -/
def Survives : Prop :=
  LengthSurvives record.sps.length ∧ LengthSurvives record.pps.length

variable {record} {p : BitStreamParser} {rest : Bytes}

theorem ahead_parts (ahead : p.Ahead (record.bytes ++ rest)) :
    p.Ahead (record.front ++ (toBE 2 record.sps.length ++ (record.sps ++
      ([1] ++ (toBE 2 record.pps.length ++ (record.pps ++
        (record.extension ++ rest))))))) := by
  simpa only [bytes, List.append_assoc] using ahead

/-- Up to the SPS every record is read alike. -/
theorem readSpsPps_start (ahead : p.Ahead (record.bytes ++ rest)) :
    readSpsPps p = (do
      let (sps, bsParser) ←
        (p.skip 8).readBytes (lengthAsRead record.sps.length)
      let (_, bsParser) ← bsParser.readBytes 1
      let (ppsLenStr, bsParser) ← bsParser.readBytes 2
      let ppsLen ← u16Length ppsLenStr
      let (pps, _) ← bsParser.readBytes ppsLen.toNat
      return naluStarterCode ++ sps ++ naluStarterCode ++ pps) := by
  obtain ⟨len, isRead, isLength⟩ := u16Length_toBE record.length_sps
  have first := ahead_parts ahead
  have second := first.skip record.length_front
  have eight : (p.skip 6).skip 2 = p.skip 8 := p.skip_skip 6 2
  rw [readSpsPps, first.readBytes record.length_front]
  simp only [bind, Except.bind, second.readBytes (length_toBE 2 _), isRead,
    isLength, eight]

/-- From the SPS on, once it is read whole. -/
theorem readSpsPps_middle (survives : LengthSurvives record.sps.length)
    (ahead : p.Ahead (record.bytes ++ rest)) :
    ∃ q : BitStreamParser, q.Ahead (record.pps ++ (record.extension ++ rest)) ∧
      readSpsPps p = (do
        let (pps, _) ← q.readBytes (lengthAsRead record.pps.length)
        return naluStarterCode ++ record.sps ++ naluStarterCode ++ pps) := by
  obtain ⟨len, isRead, isLength⟩ := u16Length_toBE record.length_pps
  have whole := (lengthAsRead_eq_iff record.length_sps).mpr survives
  have start := ((ahead_parts ahead).skip record.length_front).skip
    (length_toBE 2 record.sps.length)
  rw [BitStreamParser.skip_skip] at start
  have afterSps := start.skip rfl
  have afterNumber := afterSps.skip (t := 1) rfl
  have afterLength := afterNumber.skip (length_toBE 2 record.pps.length)
  refine ⟨_, afterLength, ?_⟩
  rw [readSpsPps_start ahead, whole, start.readBytes rfl]
  simp only [bind, Except.bind, afterSps.readBytes (t := 1) rfl,
    afterNumber.readBytes (length_toBE 2 _), isRead, isLength]

theorem readSpsPps_survives (survives : record.Survives)
    (ahead : p.Ahead (record.bytes ++ rest)) :
    readSpsPps p = .ok record.annexB := by
  obtain ⟨spsSurvives, ppsSurvives⟩ := survives
  obtain ⟨q, atPps, read⟩ := readSpsPps_middle spsSurvives ahead
  have whole := (lengthAsRead_eq_iff record.length_pps).mpr ppsSurvives
  rw [read, whole, atPps.readBytes rfl]
  rfl

/-- With the length of the SPS lost, the SPS takes in the byte behind it. -/
theorem readSpsPps_spsLost (lost : ¬ LengthSurvives record.sps.length)
    (ahead : p.Ahead (record.bytes ++ rest)) :
    readSpsPps p ≠ .ok record.annexB := by
  intro read
  have longer := lt_lengthAsRead record.length_sps lost
  have start := ((ahead_parts ahead).skip record.length_front).skip
    (length_toBE 2 record.sps.length)
  rw [BitStreamParser.skip_skip] at start
  rw [readSpsPps_start ahead, start.readBytes_take] at read
  obtain ⟨_, taken, read⟩ := bind_ok.mp read
  cases taken
  obtain ⟨_, _, read⟩ := bind_ok.mp read
  obtain ⟨_, _, read⟩ := bind_ok.mp read
  obtain ⟨_, _, read⟩ := bind_ok.mp read
  obtain ⟨_, _, read⟩ := bind_ok.mp read
  obtain ⟨more, isMore⟩ : ∃ more,
      lengthAsRead record.sps.length = record.sps.length + (more + 1) :=
    ⟨lengthAsRead record.sps.length - record.sps.length - 1, by omega⟩
  have same := Except.ok.inj read
  rw [isMore, List.take_length_add_append, List.singleton_append,
    List.take_succ_cons, annexB] at same
  simp only [List.append_assoc, List.append_cancel_left_eq,
    List.cons_append] at same
  -- The one of the number of PPS stands where a start code begins with zero.
  have heads := congrArg List.head? same
  simp [naluStarterCode] at heads

/-- With the length of the PPS lost, the PPS takes in what is behind it. -/
theorem readSpsPps_ppsLost (spsSurvives : LengthSurvives record.sps.length)
    (lost : ¬ LengthSurvives record.pps.length) (something : rest ≠ [])
    (ahead : p.Ahead (record.bytes ++ rest)) :
    readSpsPps p ≠ .ok record.annexB := by
  intro read
  have longer := lt_lengthAsRead record.length_pps lost
  obtain ⟨q, atPps, isRead⟩ := readSpsPps_middle spsSurvives ahead
  rw [isRead, atPps.readBytes_take] at read
  obtain ⟨_, taken, read⟩ := bind_ok.mp read
  cases taken
  have same := Except.ok.inj read
  simp only [annexB, List.append_cancel_left_eq] at same
  have lengths := congrArg List.length same
  have behind := List.length_pos_of_ne_nil something
  rw [List.length_take, List.length_append, List.length_append] at lengths
  omega

theorem readSpsPps_iff (something : rest ≠ [])
    (ahead : p.Ahead (record.bytes ++ rest)) :
    readSpsPps p = .ok record.annexB ↔ record.Survives := by
  constructor
  · intro read
    by_contra lost
    rw [Survives, not_and_or] at lost
    by_cases spsSurvives : LengthSurvives record.sps.length
    · have ppsLost : ¬ LengthSurvives record.pps.length := by
        rcases lost with spsLost | ppsLost
        · exact absurd spsSurvives spsLost
        · exact ppsLost
      exact readSpsPps_ppsLost spsSurvives ppsLost something ahead read
    · exact readSpsPps_spsLost spsSurvives ahead read
  · intro survives
    exact readSpsPps_survives survives ahead

end AvcRecord

/-! ## One parser over its life -/

/-- A slot's parser and what it has delivered so far. -/
structure ParserLife where
  clock : FLVClock := {}
  delivered : List AccessUnit := []

/-- The parser gets a tag while the global clock stands at some time. -/
def ParserLife.step (life : ParserLife) (call : UInt32 × FLVTag) :
    Except Abort ParserLife :=
  (parseNextFLVFrame life.clock call.1 call.2).map fun (clock, message) =>
    ⟨clock, life.delivered ++ message.toList⟩

/-- The payload of the last SPS/PPS header among some messages. -/
def lastSpsPps (delivered : List AccessUnit) : Option Bytes :=
  (delivered.filter (·.sp = .kSpsPps)).getLast?.bind (·.payload)

/-- The parser remembers the last header that it delivered. -/
def Remembers (life : ParserLife) : Prop :=
  (lastSpsPps life.delivered).getD [] = life.clock.curSpsPps

/-- A body is a header that is new, and is remembered, or leaves what is
remembered alone. -/
def NewOrOld (curSpsPps : Bytes) (body : TagBody) : Prop :=
  (body.frameReady = true ∧ body.accessUnit.sp = .kSpsPps ∧
    body.accessUnit.payload = some body.curSpsPps) ∨
  (body.curSpsPps = curSpsPps ∧
    (body.frameReady = true → body.accessUnit.sp ≠ .kSpsPps))

theorem readVideoBody_newOrOld {curSpsPps : Bytes} {p : BitStreamParser}
    {dataSize : UInt64} {body : TagBody}
    (read : readVideoBody curSpsPps p dataSize = .ok body) :
    NewOrOld curSpsPps body := by
  obtain ⟨_, _, rest⟩ := bind_ok.mp read
  obtain ⟨_, _, rest⟩ := bind_ok.mp rest
  obtain ⟨⟨inputData, sp⟩, _, rest⟩ := bind_ok.mp rest
  cases rest
  cases ready : videoReady curSpsPps inputData sp with
  | false =>
      right
      refine ⟨?_, ?_⟩
      · simp
      · intro isReady
        cases isReady
  | true =>
      by_cases header : sp = .kSpsPps
      · left
        refine ⟨rfl, header, ?_⟩
        simp [header]
      · right
        refine ⟨?_, fun _ => header⟩
        simp [header]

theorem readBody_newOrOld {curSpsPps : Bytes} {st : StreamType}
    {p : BitStreamParser} {dataSize : UInt64} {body : TagBody}
    (read : readBody curSpsPps st p dataSize = .ok body) :
    NewOrOld curSpsPps body := by
  unfold readBody at read
  split at read
  · exact readVideoBody_newOrOld read
  · have notHeader := (readAudioBody_ok read).2.2
    obtain ⟨_, _, rest⟩ := bind_ok.mp read
    cases rest
    exact Or.inr ⟨rfl, fun _ => notHeader⟩
  · cases read
    right
    refine ⟨rfl, ?_⟩
    intro ready
    cases ready

theorem readTag_newOrOld {curSpsPps : Bytes} {tag : FLVTag}
    {timestamp : UInt32} {body : TagBody}
    (read : readTag curSpsPps tag = .ok (timestamp, some body)) :
    NewOrOld curSpsPps body := by
  obtain ⟨⟨_, _⟩, _, rest⟩ := bind_ok.mp read
  simp only at rest
  split at rest
  · obtain ⟨_, bodyRead, finished⟩ := bind_ok.mp rest
    cases finished
    exact readBody_newOrOld bodyRead
  · cases rest

theorem rebase_curSpsPps (clock : FLVClock) (globalAudioTimestamp : UInt32)
    (st : StreamType) (sp : SpecialProperty) (timestamp : UInt32) :
    (clock.rebase globalAudioTimestamp st sp timestamp).curSpsPps =
      clock.curSpsPps := by
  rw [FLVClock.rebase]
  split <;> rfl

theorem remember_curSpsPps (clock : FLVClock) (st : StreamType)
    (timestamp pts : UInt32) :
    (clock.remember st timestamp pts).curSpsPps = clock.curSpsPps := by
  cases st <;> rfl

/-- Timing a message does not change what is remembered. -/
theorem deliver_curSpsPps (clock : FLVClock)
    (globalAudioTimestamp timestamp : UInt32) (body : TagBody) :
    (clock.deliver globalAudioTimestamp timestamp body).1.curSpsPps =
      body.curSpsPps := by
  rw [FLVClock.deliver]
  simp only [FLVClock.adjust, remember_curSpsPps, rebase_curSpsPps]

theorem lastSpsPps_append (delivered : List AccessUnit) (au : AccessUnit) :
    lastSpsPps (delivered ++ [au]) =
      if au.sp = .kSpsPps then au.payload else lastSpsPps delivered := by
  by_cases header : au.sp = .kSpsPps
  · simp [lastSpsPps, header]
  · simp [lastSpsPps, header]

theorem Remembers.step {life next : ParserLife} {call : UInt32 × FLVTag}
    (remembers : Remembers life) (stepped : life.step call = .ok next) :
    Remembers next := by
  obtain ⟨⟨clock, message⟩, parsed, same⟩ := map_ok.mp stepped
  have isNext : next = ⟨clock, life.delivered ++ message.toList⟩ := same.symm
  rw [isNext, Remembers]
  dsimp only
  rcases parseNextFLVFrame_ok parsed with
    ⟨sameClock, nothing⟩ | ⟨timestamp, body, read, delivered⟩
  · rw [sameClock, nothing, Option.toList_none, List.append_nil]
    exact remembers
  · have kept := deliver_curSpsPps life.clock call.1 timestamp body
    rw [delivered] at kept
    rw [kept]
    simp only [FLVClock.deliver, Prod.mk.injEq] at delivered
    rw [← delivered.2]
    rcases readTag_newOrOld read with
      ⟨ready, header, payload⟩ | ⟨same, notHeader⟩
    · rw [if_pos ready, Option.toList_some, lastSpsPps_append, if_pos header,
        payload, Option.getD_some]
    · rw [same]
      cases ready : body.frameReady with
      | false =>
          rw [if_neg Bool.false_ne_true, Option.toList_none, List.append_nil]
          exact remembers
      | true =>
          rw [if_pos rfl, Option.toList_some, lastSpsPps_append,
            if_neg (notHeader ready)]
          exact remembers

theorem remembers_of_run {calls : List (UInt32 × FLVTag)}
    {reached : ParserLife}
    (ran : run ParserLife.step {} calls = .ok reached) : Remembers reached := by
  have start : Remembers {} := rfl
  exact run_invariant Remembers (fun _ _ _ remembers => remembers.step) start
    ran

/-! ## The header as a message -/

/-- What the parser is to do with a header: deliver it, unless it is the one
that it delivered last. -/
def Converts (previous : Option Bytes) (expected : Bytes)
    (parsed : Except Abort (FLVClock × Option AccessUnit)) : Prop :=
  ∃ clock message, parsed = .ok (clock, message) ∧
    if previous = some expected then message = none
    else ∃ au, message = some au ∧ au.sp = .kSpsPps ∧
      au.payload = some expected

theorem parse_header {header : AvcHeader} {frame : TagFrame} {body : Bytes}
    (fits : (header.data kAVCSeqHeader body).length < tagSizeLimit)
    (clock : FLVClock) (globalAudioTimestamp : UInt32) :
    parseNextFLVFrame clock globalAudioTimestamp
        (header.tag frame kAVCSeqHeader body) =
      (readSpsPps ((frame.dataCursor (header.data kAVCSeqHeader body)).skip
        5)).map fun inputData =>
          clock.deliver globalAudioTimestamp frame.timestamp
            (header.tagBody clock.curSpsPps inputData .kSpsPps) := by
  have isHeader : ∀ (p : BitStreamParser) (dataSize : UInt64),
      readVideoData p kAVCSeqHeader dataSize =
        (readSpsPps p >>= fun inputData => .ok (inputData, .kSpsPps)) :=
    fun _ _ => rfl
  rw [header.parse_avc fits, isHeader]
  cases readSpsPps
    ((frame.dataCursor (header.data kAVCSeqHeader body)).skip 5) <;> rfl

theorem readSpsPps_nonempty {p : BitStreamParser} {inputData : Bytes}
    (read : readSpsPps p = .ok inputData) : inputData ≠ [] := by
  obtain ⟨_, _, read⟩ := bind_ok.mp read
  obtain ⟨_, _, read⟩ := bind_ok.mp read
  obtain ⟨_, _, read⟩ := bind_ok.mp read
  obtain ⟨_, _, read⟩ := bind_ok.mp read
  obtain ⟨_, _, read⟩ := bind_ok.mp read
  obtain ⟨_, _, read⟩ := bind_ok.mp read
  obtain ⟨_, _, read⟩ := bind_ok.mp read
  obtain ⟨_, _, read⟩ := bind_ok.mp read
  cases read
  simp [naluStarterCode]

theorem deliver_header (header : AvcHeader) {inputData : Bytes}
    (nonempty : inputData ≠ []) (clock : FLVClock)
    (globalAudioTimestamp timestamp : UInt32) :
    ∃ clock' message,
      clock.deliver globalAudioTimestamp timestamp
          (header.tagBody clock.curSpsPps inputData .kSpsPps) =
        (clock', message) ∧
      if clock.curSpsPps = inputData then message = none
      else ∃ au, message = some au ∧ au.sp = .kSpsPps ∧
        au.payload = some inputData := by
  refine ⟨_, _, rfl, ?_⟩
  by_cases same : clock.curSpsPps = inputData
  · have notReady : videoReady clock.curSpsPps inputData .kSpsPps = false := by
      simp [videoReady, same]
    rw [if_pos same]
    simp [AvcHeader.tagBody, notReady]
  · have ready : videoReady clock.curSpsPps inputData .kSpsPps = true := by
      simp [videoReady, nonempty, Ne.symm same]
    rw [if_neg same]
    simp [AvcHeader.tagBody, ready]

/-- What is delivered for some header data is what is expected of other header
data only if they are the same. -/
theorem deliver_header_iff (header : AvcHeader) {inputData : Bytes}
    (nonempty : inputData ≠ []) (expected : Bytes) (clock : FLVClock)
    (globalAudioTimestamp timestamp : UInt32) :
    (∃ clock' message,
      clock.deliver globalAudioTimestamp timestamp
          (header.tagBody clock.curSpsPps inputData .kSpsPps) =
        (clock', message) ∧
      if clock.curSpsPps = expected then message = none
      else ∃ au, message = some au ∧ au.sp = .kSpsPps ∧
        au.payload = some expected) ↔ inputData = expected := by
  obtain ⟨clock', made, delivered, isMade⟩ := deliver_header header nonempty
    clock globalAudioTimestamp timestamp
  constructor
  · intro expects
    obtain ⟨_, message, deliveredToo, isMessage⟩ := expects
    rw [delivered] at deliveredToo
    cases deliveredToo
    by_cases old : clock.curSpsPps = inputData
    · rw [if_pos old] at isMade
      by_cases same : clock.curSpsPps = expected
      · exact old.symm.trans same
      · rw [if_neg same, isMade] at isMessage
        obtain ⟨_, impossible, _⟩ := isMessage
        cases impossible
    · rw [if_neg old] at isMade
      obtain ⟨au, isAu, _, payload⟩ := isMade
      by_cases same : clock.curSpsPps = expected
      · rw [if_pos same, isAu] at isMessage
        cases isMessage
      · rw [if_neg same, isAu] at isMessage
        obtain ⟨_, sameAu, _, isExpected⟩ := isMessage
        cases sameAu
        rw [payload] at isExpected
        exact Option.some.inj isExpected
  · intro same
    rw [← same]
    exact ⟨clock', made, delivered, isMade⟩

theorem AvcRecord.annexB_nonempty (record : AvcRecord) :
    record.annexB ≠ [] := by
  simp [AvcRecord.annexB, naluStarterCode]

/-- What a parser remembers decides as the last delivered header does. -/
theorem Remembers.previous_iff {life : ParserLife} (remembers : Remembers life)
    {expected : Bytes} (nonempty : expected ≠ []) :
    lastSpsPps life.delivered = some expected ↔
      life.clock.curSpsPps = expected := by
  rw [← remembers]
  cases lastSpsPps life.delivered with
  | none => simp [Ne.symm nonempty]
  | some previous => simp

/-- Wherever a parser has come to, it converts the next header exactly if both
lengths of the record survive. -/
theorem header_converted_iff (calls : List (UInt32 × FLVTag))
    {reached : ParserLife}
    (ran : run ParserLife.step {} calls = .ok reached)
    (globalAudioTimestamp : UInt32) (frame : TagFrame) (header : AvcHeader)
    (record : AvcRecord)
    (fits : (header.data kAVCSeqHeader record.bytes).length < tagSizeLimit) :
    Converts (lastSpsPps reached.delivered) record.annexB
        (parseNextFLVFrame reached.clock globalAudioTimestamp
          (header.tag frame kAVCSeqHeader record.bytes)) ↔
      LengthSurvives record.sps.length ∧ LengthSurvives record.pps.length := by
  have remembers := remembers_of_run ran
  have ahead := header.ahead_body
    (frame.ahead_data (header.data kAVCSeqHeader record.bytes))
  have tail : frame.previousTagSize ≠ [] := by
    apply List.ne_nil_of_length_pos
    rw [frame.length_previousTagSize]
    decide
  have survives := AvcRecord.readSpsPps_iff tail ahead
  rw [AvcRecord.Survives] at survives
  rw [parse_header fits, ← survives, Converts]
  simp only [remembers.previous_iff record.annexB_nonempty]
  constructor
  · intro converted
    obtain ⟨clock, message, parsed, isMessage⟩ := converted
    obtain ⟨inputData, read, delivered⟩ := map_ok.mp parsed
    have same := (deliver_header_iff header (readSpsPps_nonempty read)
      record.annexB reached.clock globalAudioTimestamp frame.timestamp).mp
        ⟨clock, message, delivered, isMessage⟩
    rw [read, same]
  · intro read
    obtain ⟨clock, message, delivered, isMessage⟩ :=
      (deliver_header_iff header record.annexB_nonempty record.annexB
        reached.clock globalAudioTimestamp frame.timestamp).mpr rfl
    refine ⟨clock, message, ?_, isMessage⟩
    rw [read, Except.map, delivered]

/-- The record of a small SPS. -/
def AvcRecord.ofSmallSps : AvcRecord :=
  ⟨[1, 0x42, 0xc0, 0x1f, 0xff, 0xe1], [0x67, 0x42, 0xc0, 0x1f],
    [0x68, 0xce, 0x3c, 0x80], [], rfl, by decide, by decide⟩

/-- A second tag with the same header. -/
theorem header_converted_again :
    ∃ reached,
      run ParserLife.step {}
          [(0, AvcHeader.ofKeyFrame.tag (TagFrame.zeros 0) kAVCSeqHeader
            AvcRecord.ofSmallSps.bytes)] = .ok reached ∧
      Converts (lastSpsPps reached.delivered) AvcRecord.ofSmallSps.annexB
        (parseNextFLVFrame reached.clock 40
          (AvcHeader.ofKeyFrame.tag (TagFrame.zeros 40) kAVCSeqHeader
            AvcRecord.ofSmallSps.bytes)) := by
  obtain ⟨reached, ran⟩ :
      ∃ reached, run ParserLife.step {}
        [(0, AvcHeader.ofKeyFrame.tag (TagFrame.zeros 0) kAVCSeqHeader
          AvcRecord.ofSmallSps.bytes)] = .ok reached :=
    exists_ok (by decide +kernel)
  exact ⟨reached, ran,
    (header_converted_iff _ ran 40 (TagFrame.zeros 40) AvcHeader.ofKeyFrame
      AvcRecord.ofSmallSps (by decide)).mpr (by decide)⟩

/-- An SPS of 128 bytes. -/
def longSps : Bytes :=
  0x67 :: List.replicate 127 0x11

theorem length_longSps : longSps.length < 65536 := by
  simp [longSps]

def AvcRecord.ofLongSps : AvcRecord :=
  ⟨[1, 0x42, 0xc0, 0x1f, 0xff, 0xe1], longSps, [0x68, 0xce, 0x3c, 0x80], [],
    rfl, length_longSps, by decide⟩

theorem header_longSps_throws :
    parseNextFLVFrame {} 0
        (AvcHeader.ofKeyFrame.tag (TagFrame.zeros 0) kAVCSeqHeader
          AvcRecord.ofLongSps.bytes) = .error .outOfRange ∧
      ¬ Converts (lastSpsPps []) AvcRecord.ofLongSps.annexB
        (parseNextFLVFrame {} 0
          (AvcHeader.ofKeyFrame.tag (TagFrame.zeros 0) kAVCSeqHeader
            AvcRecord.ofLongSps.bytes)) := by
  have throws : parseNextFLVFrame {} 0
      (AvcHeader.ofKeyFrame.tag (TagFrame.zeros 0) kAVCSeqHeader
        AvcRecord.ofLongSps.bytes) = .error .outOfRange := by
    decide +kernel
  refine ⟨throws, ?_⟩
  intro converted
  obtain ⟨_, _, parsed, _⟩ := converted
  rw [throws] at parsed
  cases parsed

end GroupVoip
