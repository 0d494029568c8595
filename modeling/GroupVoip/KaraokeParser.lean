import GroupVoip.FLVDelivery
import GroupVoip.Library.Emitter

/-!
# The FLV parser of the karaoke thread

`FLVParser` cuts a song file into its tags.  On the way it adds the running
offset of the songs before to the three low bytes of the timestamp, in place.
The fourth byte of the timestamp is neither read nor written.
-/

namespace GroupVoip

open Library.Framing Library.WireBytes

/-- A copy of a tag, and the timestamp that was passed along with it. -/
structure FLVFrameObject where
  frame : Bytes
  timestamp : Int32
deriving DecidableEq, Repr

namespace Karaoke

/-- The size of `curBuf_`. -/
def bufCapacity : Nat := 1048576

/-- The state of the scan with what the states before it have collected. A
`put` beyond the end of the buffer throws, and the song is given up with its
parser: that is `overflowed`. -/
inductive ScanState where
  | SCAN_HEADER_TAG
  | SCAN_REMAINING_TAG (curBuf : Bytes) (curFlvTagSize : Nat)
      (curFlvTagTimestamp : Int32)
  | overflowed
deriving DecidableEq, Repr

structure FLVParser where
  adjustPTS : Int32
  scanState : ScanState
deriving DecidableEq, Repr

/-- The three low bytes of the timestamp are written back. -/
def writeBack (curBuf : Bytes) (timestamp : Int32) : Bytes :=
  curBuf.take 4 ++
    [byteAt timestamp.toUInt32 16, byteAt timestamp.toUInt32 8,
      byteAt timestamp.toUInt32 0] ++
    curBuf.drop 7

namespace FLVParser

def need (p : FLVParser) : Nat :=
  match p.scanState with
  | .SCAN_HEADER_TAG => 11
  | .SCAN_REMAINING_TAG _ curFlvTagSize _ =>
      min curFlvTagSize (bufCapacity - 11 + 1)
  | .overflowed => 1

def emitHeaderTag (p : FLVParser) (curBuf : Bytes) : FLVParser :=
  let curFlvTagSize :=
    (join3 (curBuf.getD 1 0) (curBuf.getD 2 0) (curBuf.getD 3 0)).toNat + 4
  let curFlvTagTimestamp :=
    (join3 (curBuf.getD 4 0) (curBuf.getD 5 0) (curBuf.getD 6 0)).toInt32 +
      p.adjustPTS
  { p with
    scanState := .SCAN_REMAINING_TAG (writeBack curBuf curFlvTagTimestamp)
      curFlvTagSize curFlvTagTimestamp }

/-- The two cases of `readData` once the bytes they wait for are there. -/
def emit (p : FLVParser) (buf : Bytes) :
    List FLVFrameObject × Except Empty FLVParser :=
  match p.scanState with
  | .SCAN_HEADER_TAG => ([], .ok (p.emitHeaderTag buf))
  | .SCAN_REMAINING_TAG curBuf curFlvTagSize curFlvTagTimestamp =>
      if curFlvTagSize + 11 ≤ bufCapacity then
        (if 0 < curFlvTagSize then [⟨curBuf ++ buf, curFlvTagTimestamp⟩]
          else [],
          .ok { p with scanState := .SCAN_HEADER_TAG })
      else ([], .ok { p with scanState := .overflowed })
  | .overflowed => ([], .ok p)

end FLVParser

/-- `FLVParser.readData` without its delegate. -/
def flvReader : Emitter UInt8 FLVParser FLVFrameObject Empty where
  need := FLVParser.need
  emit := FLVParser.emit
  progress := by
    intro p p' nothing fired
    cases state : p.scanState with
    | SCAN_HEADER_TAG => simp [FLVParser.need, state] at nothing
    | overflowed => simp [FLVParser.need, state] at nothing
    | SCAN_REMAINING_TAG curBuf curFlvTagSize curFlvTagTimestamp =>
        simp only [FLVParser.emit, state] at fired
        split at fired
        · cases fired
          simp [FLVParser.need]
        · cases fired
          simp [FLVParser.need]

def newFLVParser (adjustPTS : Int32) : flvReader.Scan :=
  flvReader.freshScan ⟨adjustPTS, .SCAN_HEADER_TAG⟩

/-! ## The tags of a song -/

/-- A tag of a song file, with the whole 32 bits of its timestamp. -/
structure SongTag where
  tagType : UInt8
  ts : UInt32
  body : Bytes
deriving DecidableEq, Repr

namespace SongTag

def wire (t : SongTag) : Bytes :=
  wireTag t.tagType t.ts t.body

/-- The tag fits into the parser's buffer. -/
def Fits (t : SongTag) : Prop :=
  t.wire.length ≤ bufCapacity

instance (t : SongTag) : Decidable t.Fits :=
  inferInstanceAs (Decidable (_ ≤ _))

/-- The size of the data has three bytes in the tag. -/
def WellFormed (t : SongTag) : Prop :=
  t.body.length < 16777216

instance (t : SongTag) : Decidable t.WellFormed :=
  inferInstanceAs (Decidable (_ < _))

/-- The timestamp field without its extension byte. -/
def ts24 (t : SongTag) : Nat :=
  t.ts.toNat % 16777216

/-- The timestamp that the parser passes on. -/
def adjustedTs (adjustPTS : Int32) (t : SongTag) : Int32 :=
  Int32.ofNat t.ts24 + adjustPTS

/-- What the parser passes on: the tag with three bytes rewritten. -/
def adjusted (adjustPTS : Int32) (t : SongTag) : FLVFrameObject where
  frame := writeBack t.wire (t.adjustedTs adjustPTS)
  timestamp := t.adjustedTs adjustPTS

end SongTag

/-- The tags of a song, one after the other. -/
def songBody (tags : List SongTag) : Bytes :=
  tags.flatMap SongTag.wire

/-! ## What the parser makes of a song -/

theorem writeBack_append {head : Bytes} (rest : Bytes) (timestamp : Int32)
    (long : 7 ≤ head.length) :
    writeBack (head ++ rest) timestamp =
      writeBack head timestamp ++ rest := by
  rw [writeBack, writeBack, List.take_append_of_le_length (by omega),
    List.drop_append_of_le_length long]
  simp only [List.append_assoc]

theorem join3_low (n : Nat) :
    join3 (UInt8.ofNat (n / 256 / 256)) (UInt8.ofNat (n / 256))
      (UInt8.ofNat n) = UInt32.ofNat (n % 16777216) := by
  apply UInt32.toNat_inj.mp
  rw [toNat_join3, UInt8.toNat_ofNat', UInt8.toNat_ofNat', UInt8.toNat_ofNat',
    UInt32.toNat_ofNat']
  omega

namespace SongTag

/-- The eleven bytes before the data. -/
def head (t : SongTag) : Bytes :=
  t.tagType :: UInt8.ofNat (t.body.length / 256 / 256) ::
    UInt8.ofNat (t.body.length / 256) :: UInt8.ofNat t.body.length ::
    UInt8.ofNat (t.ts.toNat / 256 / 256) :: UInt8.ofNat (t.ts.toNat / 256) ::
    UInt8.ofNat t.ts.toNat :: UInt8.ofNat (t.ts.toNat / 16777216) ::
    [0, 0, 0]

def remaining (t : SongTag) : Bytes :=
  t.body ++ toBE 4 (11 + t.body.length)

theorem wire_eq (t : SongTag) : t.wire = t.head ++ t.remaining := by
  simp only [wire, wireTag, toBE_three, head, remaining, List.append_assoc,
    List.cons_append, List.nil_append]
  rfl

theorem length_head (t : SongTag) : t.head.length = 11 :=
  rfl

theorem length_remaining (t : SongTag) :
    t.remaining.length = t.body.length + 4 := by
  rw [remaining, List.length_append, length_toBE]

theorem length_wire (t : SongTag) : t.wire.length = 15 + t.body.length :=
  length_wireTag t.tagType t.ts t.body

theorem fits_iff (t : SongTag) :
    t.Fits ↔ t.body.length + 4 + 11 ≤ bufCapacity := by
  rw [Fits, length_wire]
  omega

end SongTag

variable {adjustPTS : Int32} {t : SongTag}

/-- The parser between the head of a tag and its end. -/
def betweenHeadAndEnd (adjustPTS : Int32) (t : SongTag) : FLVParser where
  adjustPTS := adjustPTS
  scanState := .SCAN_REMAINING_TAG (writeBack t.head (t.adjustedTs adjustPTS))
    (t.body.length + 4) (t.adjustedTs adjustPTS)

theorem scan_head (wellFormed : t.WellFormed) :
    flvReader.scan (newFLVParser adjustPTS) t.head =
      .ok (flvReader.freshScan (betweenHeadAndEnd adjustPTS t), []) := by
  refine Emitter.scan_record (List.cons_ne_nil _ _) t.length_head ?_
  have size : (join3 (UInt8.ofNat (t.body.length / 256 / 256))
      (UInt8.ofNat (t.body.length / 256))
      (UInt8.ofNat t.body.length)).toNat = t.body.length := by
    rw [join3_low, UInt32.toNat_ofNat']
    have small : t.body.length < 16777216 := wellFormed
    omega
  have timestamp : (join3 (UInt8.ofNat (t.ts.toNat / 256 / 256))
      (UInt8.ofNat (t.ts.toNat / 256)) (UInt8.ofNat t.ts.toNat)).toInt32 =
        Int32.ofNat t.ts24 := by
    rw [join3_low]
    rfl
  show (([] : List FLVFrameObject), Except.ok _) = _
  rw [FLVParser.emitHeaderTag]
  simp only [SongTag.head, List.getD_cons_succ, List.getD_cons_zero, size,
    timestamp]
  rfl

theorem need_betweenHeadAndEnd :
    flvReader.need (betweenHeadAndEnd adjustPTS t) =
      min (t.body.length + 4) (bufCapacity - 11 + 1) :=
  rfl

/-- A tag that fits is passed on. -/
theorem scan_wire (wellFormed : t.WellFormed) (fits : t.Fits) :
    flvReader.scan (newFLVParser adjustPTS) t.wire =
      .ok (newFLVParser adjustPTS, [t.adjusted adjustPTS]) := by
  have small := t.fits_iff.mp fits
  have nonempty : t.remaining ≠ [] := by
    apply List.ne_nil_of_length_pos
    rw [SongTag.length_remaining]
    omega
  have exactFit : t.remaining.length =
      flvReader.need (betweenHeadAndEnd adjustPTS t) := by
    rw [SongTag.length_remaining, need_betweenHeadAndEnd]
    omega
  have frame : writeBack t.head (t.adjustedTs adjustPTS) ++ t.remaining =
      (t.adjusted adjustPTS).frame := by
    rw [SongTag.adjusted, SongTag.wire_eq, writeBack_append]
    rw [SongTag.length_head]
    decide
  have emitted : flvReader.emit (betweenHeadAndEnd adjustPTS t) t.remaining =
      ([t.adjusted adjustPTS], .ok ⟨adjustPTS, .SCAN_HEADER_TAG⟩) := by
    show (if t.body.length + 4 + 11 ≤ bufCapacity then _ else _) = _
    rw [if_pos small, if_pos (Nat.succ_pos _), frame]
    rfl
  rw [SongTag.wire_eq, Emitter.scan_append, scan_head wellFormed,
    Emitter.Outcome.nothing_andThen,
    Emitter.scan_record nonempty exactFit emitted]
  rfl

/-- States that no tag leaves. -/
def FLVParser.Stuck (p : FLVParser) : Prop :=
  match p.scanState with
  | .SCAN_HEADER_TAG => False
  | .SCAN_REMAINING_TAG _ curFlvTagSize _ => bufCapacity < curFlvTagSize + 11
  | .overflowed => True

theorem FLVParser.Stuck.silent (p : FLVParser) (buf : Bytes)
    (stuck : p.Stuck) :
    ∃ next, flvReader.emit p buf = ([], .ok next) ∧ next.Stuck := by
  obtain ⟨adjustPTS, scanState⟩ := p
  cases scanState with
  | SCAN_HEADER_TAG => exact stuck.elim
  | overflowed => exact ⟨_, rfl, trivial⟩
  | SCAN_REMAINING_TAG curBuf curFlvTagSize curFlvTagTimestamp =>
      have large : bufCapacity < curFlvTagSize + 11 := stuck
      refine ⟨⟨adjustPTS, .overflowed⟩, ?_, trivial⟩
      show (if curFlvTagSize + 11 ≤ bufCapacity then _ else _) = _
      rw [if_neg (by omega)]

/-- Nothing is passed on from the first tag on that does not fit. -/
theorem scan_wire_of_not_fits (wellFormed : t.WellFormed) (large : ¬ t.Fits)
    (rest : Bytes) :
    ∃ c, flvReader.scan (newFLVParser adjustPTS) (t.wire ++ rest) =
      .ok (c, []) := by
  have stuck : (betweenHeadAndEnd adjustPTS t).Stuck := by
    rw [SongTag.fits_iff] at large
    show bufCapacity < t.body.length + 4 + 11
    omega
  obtain ⟨c, scanned, -⟩ := Emitter.scan_silent FLVParser.Stuck.silent
    (t.remaining ++ rest)
    (flvReader.freshScan (betweenHeadAndEnd adjustPTS t)) stuck
  refine ⟨c, ?_⟩
  rw [SongTag.wire_eq, List.append_assoc, Emitter.scan_append,
    scan_head wellFormed, Emitter.Outcome.nothing_andThen, scanned]

/-- A song whose tags fit is passed on tag by tag. -/
theorem scan_songBody_of_fits {tags : List SongTag}
    (wellFormed : ∀ t ∈ tags, t.WellFormed) (fits : ∀ t ∈ tags, t.Fits) :
    flvReader.scan (newFLVParser adjustPTS) (songBody tags) =
      .ok (newFLVParser adjustPTS, tags.map (SongTag.adjusted adjustPTS)) := by
  induction tags with
  | nil => rfl
  | cons t rest inductionHypothesis =>
      rw [List.forall_mem_cons] at wellFormed fits
      have others := inductionHypothesis wellFormed.2 fits.2
      exact Emitter.scan_append_ok.mpr
        ⟨_, _, _, scan_wire wellFormed.1 fits.1, others, rfl⟩

/-- A song is passed on up to the first tag that does not fit. -/
theorem scan_songBody {tags : List SongTag}
    (wellFormed : ∀ t ∈ tags, t.WellFormed) :
    ∃ c, flvReader.scan (newFLVParser adjustPTS) (songBody tags) =
      .ok (c, (tags.takeWhile fun t => decide t.Fits).map
        (SongTag.adjusted adjustPTS)) := by
  induction tags with
  | nil => exact ⟨_, rfl⟩
  | cons t rest inductionHypothesis =>
      rw [List.forall_mem_cons] at wellFormed
      rw [songBody, List.flatMap_cons, List.takeWhile_cons]
      by_cases fits : t.Fits
      · obtain ⟨c, others⟩ := inductionHypothesis wellFormed.2
        refine ⟨c, ?_⟩
        rw [decide_eq_true fits, if_pos rfl]
        exact Emitter.scan_append_ok.mpr
          ⟨_, _, _, scan_wire wellFormed.1 fits, others, rfl⟩
      · rw [decide_eq_false fits, if_neg Bool.false_ne_true]
        exact scan_wire_of_not_fits wellFormed.1 fits _

/-! ## The tags behind a front part of the song -/

section Prefixes

variable {tags : List SongTag}
variable {consumed rest : Bytes} {c : flvReader.Scan}
variable {calls : List FLVFrameObject}

/-- The parser passes on a front part of the tags that fit. -/
theorem calls_prefix (wellFormed : ∀ t ∈ tags, t.WellFormed)
    (split : consumed ++ rest = songBody tags)
    (scanned : flvReader.scan (newFLVParser adjustPTS) consumed =
      .ok (c, calls)) :
    calls <+: (tags.takeWhile fun t => decide t.Fits).map
      (SongTag.adjusted adjustPTS) := by
  obtain ⟨final, whole⟩ := @scan_songBody adjustPTS tags wellFormed
  rw [← split] at whole
  obtain ⟨middle, made, later, first, -, all⟩ :=
    Emitter.scan_append_ok.mp whole
  rw [scanned, Except.ok.injEq, Prod.mk.injEq] at first
  obtain ⟨rfl, rfl⟩ := first
  exact ⟨later, all.symm⟩

theorem calls_whole (wellFormed : ∀ t ∈ tags, t.WellFormed)
    (fits : ∀ t ∈ tags, t.Fits)
    (scanned : flvReader.scan (newFLVParser adjustPTS) (songBody tags) =
      .ok (c, calls)) :
    calls = tags.map (SongTag.adjusted adjustPTS) := by
  rw [scan_songBody_of_fits wellFormed fits, Except.ok.injEq,
    Prod.mk.injEq] at scanned
  exact scanned.2.symm

/-- A tag is passed on with its last byte and not before. -/
theorem scan_wire_short {t : SongTag} (wellFormed : t.WellFormed)
    (fits : t.Fits) (split : consumed ++ rest = t.wire) (left : rest ≠ []) :
    ∃ c, flvReader.scan (newFLVParser adjustPTS) consumed = .ok (c, []) := by
  have total := congrArg List.length split
  have some_left := List.length_pos_of_ne_nil left
  rw [List.length_append, SongTag.length_wire] at total
  rw [SongTag.wire_eq] at split
  rcases List.append_eq_append_iff.mp split with
    ⟨headRest, headSplit, -⟩ | ⟨more, consumedSplit, remainingSplit⟩
  · by_cases whole : headRest = []
    · rw [whole, List.append_nil] at headSplit
      rw [← headSplit]
      exact ⟨_, scan_head wellFormed⟩
    · have short := congrArg List.length headSplit
      have some_more := List.length_pos_of_ne_nil whole
      rw [SongTag.length_head, List.length_append] at short
      apply Emitter.scan_unfilled
      show consumed.length < 11
      omega
  · have short := congrArg List.length remainingSplit
    have small := t.fits_iff.mp fits
    rw [SongTag.length_remaining, List.length_append] at short
    obtain ⟨c, scanned⟩ := @Emitter.scan_unfilled _ _ _ _ flvReader
      (betweenHeadAndEnd adjustPTS t) more (by
        rw [need_betweenHeadAndEnd]
        omega)
    refine ⟨c, ?_⟩
    rw [consumedSplit]
    exact Emitter.scan_append_ok.mpr
      ⟨_, _, _, scan_head wellFormed, scanned, rfl⟩

/-- Before the last byte not all the tags have been passed on. -/
theorem calls_short (wellFormed : ∀ t ∈ tags, t.WellFormed)
    (fits : ∀ t ∈ tags, t.Fits) (split : consumed ++ rest = songBody tags)
    (left : rest ≠ [])
    (scanned : flvReader.scan (newFLVParser adjustPTS) consumed =
      .ok (c, calls)) :
    calls.length < tags.length := by
  induction tags generalizing consumed calls with
  | nil =>
      have nothing : rest = [] := (List.append_eq_nil_iff.mp split).2
      exact absurd nothing left
  | cons t others inductionHypothesis =>
      have first := wellFormed t List.mem_cons_self
      have firstFits := fits t List.mem_cons_self
      rw [songBody, List.flatMap_cons] at split
      rcases List.append_eq_append_iff.mp split with
        ⟨wireRest, wireSplit, restSplit⟩ | ⟨more, consumedSplit, bodySplit⟩
      · by_cases whole : wireRest = []
        · rw [whole, List.append_nil] at wireSplit
          rw [← wireSplit, scan_wire first firstFits, Except.ok.injEq,
            Prod.mk.injEq] at scanned
          rw [← scanned.2, List.length_cons, List.length_nil,
            List.length_cons]
          rw [whole, List.nil_append] at restSplit
          have nonempty : others ≠ [] := by
            rintro rfl
            exact left restSplit
          have := List.length_pos_of_ne_nil nonempty
          omega
        · obtain ⟨c', nothing⟩ :=
            @scan_wire_short adjustPTS _ _ t first firstFits wireSplit.symm
              whole
          rw [nothing, Except.ok.injEq, Prod.mk.injEq] at scanned
          rw [← scanned.2]
          exact Nat.succ_pos _
      · rw [consumedSplit] at scanned
        obtain ⟨middle, made, later, ofTag, ofMore, all⟩ :=
          Emitter.scan_append_ok.mp scanned
        rw [scan_wire first firstFits, Except.ok.injEq, Prod.mk.injEq] at ofTag
        obtain ⟨rfl, rfl⟩ := ofTag
        have fewer := inductionHypothesis
          (fun other member => wellFormed other (List.mem_cons_of_mem _ member))
          (fun other member => fits other (List.mem_cons_of_mem _ member))
          bodySplit.symm ofMore
        rw [all, List.length_append, List.length_cons, List.length_nil,
          List.length_cons]
        omega

/-- A song whose tags fit does not make the parser throw. -/
theorem not_overflowed (wellFormed : ∀ t ∈ tags, t.WellFormed)
    (fits : ∀ t ∈ tags, t.Fits) (split : consumed ++ rest = songBody tags)
    (scanned : flvReader.scan (newFLVParser adjustPTS) consumed =
      .ok (c, calls)) :
    c.state.scanState ≠ .overflowed := by
  intro overflowed
  have stuck : c.state.Stuck := by
    rw [FLVParser.Stuck, overflowed]
    trivial
  obtain ⟨final, silent, finalStuck⟩ :=
    Emitter.scan_silent FLVParser.Stuck.silent rest c stuck
  have whole : flvReader.scan (newFLVParser adjustPTS) (songBody tags) =
      .ok (final, calls ++ []) := by
    rw [← split]
    exact Emitter.scan_append_ok.mpr ⟨_, _, _, scanned, silent, rfl⟩
  rw [scan_songBody_of_fits wellFormed fits, Except.ok.injEq,
    Prod.mk.injEq] at whole
  obtain ⟨final_eq, -⟩ := whole
  rw [← final_eq] at finalStuck
  exact finalStuck

end Prefixes

end Karaoke

end GroupVoip
