import GroupVoip.KaraokeClock

/-!
# FLVTimestampMapper

The tool reads the tags of an FLV file and writes them out again with the
timestamp of the first tag taken off.  It scans like the parser of the karaoke
thread, but the offset is not known beforehand: it is the first timestamp that
comes along while the offset is 0.
-/

namespace GroupVoip

open Library.Framing Library.Runs Library.WireBytes
open Karaoke (SongTag bufCapacity songBody writeBack)

structure FLVTimestampMapper where
  adjustPTS : Int32 := 0
  scanState : Karaoke.ScanState := .SCAN_HEADER_TAG
deriving DecidableEq, Repr

namespace FLVTimestampMapper

def need (m : FLVTimestampMapper) : Nat :=
  match m.scanState with
  | .SCAN_HEADER_TAG => 11
  | .SCAN_REMAINING_TAG _ curFlvTagSize _ =>
      min curFlvTagSize (bufCapacity - 11 + 1)
  | .overflowed => 1

def emitHeaderTag (m : FLVTimestampMapper) (curBuf : Bytes) :
    FLVTimestampMapper :=
  let curFlvTagSize :=
    (join3 (curBuf.getD 1 0) (curBuf.getD 2 0) (curBuf.getD 3 0)).toNat + 4
  let curFlvTagTimestamp :=
    (join3 (curBuf.getD 4 0) (curBuf.getD 5 0) (curBuf.getD 6 0)).toInt32
  let adjustPTS :=
    if m.adjustPTS = 0 then curFlvTagTimestamp else m.adjustPTS
  let curFlvTagTimestamp := curFlvTagTimestamp - adjustPTS
  { adjustPTS := adjustPTS
    scanState := .SCAN_REMAINING_TAG (writeBack curBuf curFlvTagTimestamp)
      curFlvTagSize curFlvTagTimestamp }

/-- The two cases of `readData` once the bytes they wait for are there, with
what is written to the file. -/
def emit (m : FLVTimestampMapper) (buf : Bytes) :
    List Bytes × Except Empty FLVTimestampMapper :=
  match m.scanState with
  | .SCAN_HEADER_TAG => ([], .ok (m.emitHeaderTag buf))
  | .SCAN_REMAINING_TAG curBuf curFlvTagSize _ =>
      if curFlvTagSize + 11 ≤ bufCapacity then
        (if 0 < curFlvTagSize then [curBuf ++ buf] else [],
          .ok { m with scanState := .SCAN_HEADER_TAG })
      else ([], .ok { m with scanState := .overflowed })
  | .overflowed => ([], .ok m)

end FLVTimestampMapper

def timestampMapper : Emitter UInt8 FLVTimestampMapper Bytes Empty where
  need := FLVTimestampMapper.need
  emit := FLVTimestampMapper.emit
  progress := by
    intro m m' nothing fired
    cases state : m.scanState with
    | SCAN_HEADER_TAG => simp [FLVTimestampMapper.need, state] at nothing
    | overflowed => simp [FLVTimestampMapper.need, state] at nothing
    | SCAN_REMAINING_TAG curBuf curFlvTagSize curFlvTagTimestamp =>
        simp only [FLVTimestampMapper.emit, state] at fired
        split at fired
        · cases fired
          simp [FLVTimestampMapper.need]
        · cases fired
          simp [FLVTimestampMapper.need]

namespace FLVTimestampMapper

/-- The output file, with what has been written to it. -/
def writeFile (outputFile frame : Bytes) : Except Empty Bytes :=
  .ok (outputFile ++ frame)

/-- What stands in the file after the `readData` calls of a new mapper. -/
def readDataAll (reads : List Bytes) : Except Empty Bytes :=
  ((timestampMapper.framer writeFile).readAll
    ((timestampMapper.framer writeFile).fresh ({}, [])) reads).map
      fun c => c.state.2

/-! ## One tag -/

/-- The offset after a tag with the timestamp `ts`. -/
def latch (adjust ts : UInt32) : UInt32 :=
  if adjust = 0 then ts else adjust

/-- A tag with its timestamp put back. -/
def shiftBack (adjust : UInt32) (t : SongTag) : SongTag :=
  { t with ts := t.ts - adjust }

/-- A mapper between two tags. -/
def atHeader (adjust : UInt32) : timestampMapper.Scan :=
  timestampMapper.freshScan ⟨adjust.toInt32, .SCAN_HEADER_TAG⟩

section Tag

variable {adjust : UInt32} {t : SongTag}

theorem toInt32_eq_zero_iff : adjust.toInt32 = 0 ↔ adjust = 0 := by
  constructor
  · intro zero
    have back := congrArg Int32.toUInt32 zero
    rw [UInt32.toUInt32_toInt32] at back
    exact back
  · intro zero
    rw [zero]
    rfl

theorem ts24_eq (small : t.ts.toNat < 16777216) :
    Int32.ofNat t.ts24 = t.ts.toInt32 := by
  rw [SongTag.ts24, Nat.mod_eq_of_lt small, ← UInt32.toInt32_ofNat',
    UInt32.ofNat_toNat]

/-- The bytes that are written are those of the tag that is put back. -/
theorem writeBack_shiftBack (small : t.ts.toNat < 16777216)
    (le : adjust ≤ t.ts) :
    writeBack t.wire (t.ts - adjust).toInt32 = (shiftBack adjust t).wire := by
  have sum : t.adjustedTs (-adjust).toInt32 = (t.ts - adjust).toInt32 := by
    rw [SongTag.adjustedTs, ts24_eq small, UInt32.sub_eq_add_neg,
      UInt32.toInt32_add]
  have value := UInt32.toNat_sub_of_le _ _ le
  have wireTs : t.wireTs (-adjust).toInt32 = t.ts - adjust := by
    apply UInt32.toNat_inj.mp
    rw [SongTag.wireTs_toNat, sum, UInt32.toUInt32_toInt32]
    omega
  have frame := @SongTag.adjusted_frame (-adjust).toInt32 t
  rw [wireTs] at frame
  rw [← sum]
  exact frame

/-- The mapper between the head of a tag and its end. -/
def betweenHeadAndEnd (adjust : UInt32) (t : SongTag) : FLVTimestampMapper where
  adjustPTS := (latch adjust t.ts).toInt32
  scanState := .SCAN_REMAINING_TAG
    (writeBack t.head (t.ts - latch adjust t.ts).toInt32) (t.body.length + 4)
    (t.ts - latch adjust t.ts).toInt32

theorem scan_head (wellFormed : t.WellFormed) (small : t.ts.toNat < 16777216) :
    timestampMapper.scan (atHeader adjust) t.head =
      .ok (timestampMapper.freshScan (betweenHeadAndEnd adjust t), []) := by
  refine Emitter.scan_record (List.cons_ne_nil _ _) t.length_head ?_
  have size : (join3 (UInt8.ofNat (t.body.length / 256 / 256))
      (UInt8.ofNat (t.body.length / 256))
      (UInt8.ofNat t.body.length)).toNat = t.body.length := by
    rw [Karaoke.join3_low, UInt32.toNat_ofNat']
    have fits : t.body.length < 16777216 := wellFormed
    omega
  have timestamp : (join3 (UInt8.ofNat (t.ts.toNat / 256 / 256))
      (UInt8.ofNat (t.ts.toNat / 256)) (UInt8.ofNat t.ts.toNat)).toInt32 =
        t.ts.toInt32 := by
    rw [Karaoke.join3_low, ← ts24_eq small]
    rfl
  have latched : (if adjust.toInt32 = 0 then t.ts.toInt32
      else adjust.toInt32) = (latch adjust t.ts).toInt32 := by
    unfold latch
    by_cases unset : adjust = 0
    · rw [if_pos (toInt32_eq_zero_iff.mpr unset), if_pos unset]
    · rw [if_neg (mt toInt32_eq_zero_iff.mp unset), if_neg unset]
  show (([] : List Bytes), Except.ok (emitHeaderTag _ _)) = _
  rw [emitHeaderTag]
  simp only [SongTag.head, List.getD_cons_succ, List.getD_cons_zero, size,
    timestamp, latched, ← UInt32.toInt32_sub]
  rfl

/-- A tag is written with the timestamp put back by the offset, which is its
own if there was none. -/
theorem scan_wire (fits : t.Fits) (small : t.ts.toNat < 16777216)
    (le : adjust ≤ t.ts) :
    timestampMapper.scan (atHeader adjust) t.wire =
      .ok (atHeader (latch adjust t.ts),
        [(shiftBack (latch adjust t.ts) t).wire]) := by
  have room := t.fits_iff.mp fits
  have wellFormed : t.WellFormed := by
    have capacity : bufCapacity = 1048576 := rfl
    show t.body.length < 16777216
    omega
  have leLatch : latch adjust t.ts ≤ t.ts := by
    unfold latch
    split
    · exact UInt32.le_refl _
    · exact le
  have exactFit : t.remaining.length =
      timestampMapper.need (betweenHeadAndEnd adjust t) := by
    rw [SongTag.length_remaining]
    show _ = min (t.body.length + 4) (bufCapacity - 11 + 1)
    omega
  have nonempty : t.remaining ≠ [] := by
    apply List.ne_nil_of_length_pos
    rw [SongTag.length_remaining]
    omega
  have frame : writeBack t.head (t.ts - latch adjust t.ts).toInt32 ++
      t.remaining = (shiftBack (latch adjust t.ts) t).wire := by
    rw [← writeBack_shiftBack small leLatch, SongTag.wire_eq,
      Karaoke.writeBack_append]
    rw [SongTag.length_head]
    decide
  have emitted :
      timestampMapper.emit (betweenHeadAndEnd adjust t) t.remaining =
        ([(shiftBack (latch adjust t.ts) t).wire],
          .ok ⟨(latch adjust t.ts).toInt32, .SCAN_HEADER_TAG⟩) := by
    show (if t.body.length + 4 + 11 ≤ bufCapacity then _ else _) = _
    rw [if_pos room, if_pos (Nat.succ_pos _), frame]
    rfl
  rw [SongTag.wire_eq, Emitter.scan_append, scan_head wellFormed small,
    Emitter.Outcome.nothing_andThen,
    Emitter.scan_record nonempty exactFit emitted]
  rfl

end Tag

/-! ## All tags -/

/-- What becomes of the tags, with the offset at the start. -/
def mapTags : UInt32 → List SongTag → List SongTag
  | _, [] => []
  | adjust, t :: rest =>
      shiftBack (latch adjust t.ts) t :: mapTags (latch adjust t.ts) rest

/-- Tags in the order of their timestamps, all of which have three bytes. -/
structure WellFormed (tags : List SongTag) : Prop where
  fits : ∀ t, t ∈ tags → t.Fits
  small : ∀ t, t ∈ tags → t.ts.toNat < 16777216
  ordered : tags.Pairwise fun t u => t.ts ≤ u.ts

theorem WellFormed.tail {t : SongTag} {rest : List SongTag}
    (wellFormed : WellFormed (t :: rest)) : WellFormed rest where
  fits u member := wellFormed.fits u (List.mem_cons_of_mem _ member)
  small u member := wellFormed.small u (List.mem_cons_of_mem _ member)
  ordered := (List.pairwise_cons.mp wellFormed.ordered).2

theorem scan_songBody {tags : List SongTag} :
    ∀ {adjust : UInt32}, WellFormed tags →
      (∀ t, t ∈ tags → adjust ≤ t.ts) →
      ∃ adjust', timestampMapper.scan (atHeader adjust) (songBody tags) =
        .ok (atHeader adjust', (mapTags adjust tags).map SongTag.wire) := by
  induction tags with
  | nil =>
      intro adjust _ _
      exact ⟨adjust, rfl⟩
  | cons t rest inductionHypothesis =>
      intro adjust wellFormed le
      have leLatch : ∀ u, u ∈ rest → latch adjust t.ts ≤ u.ts := by
        intro u member
        unfold latch
        split
        · exact (List.pairwise_cons.mp wellFormed.ordered).1 u member
        · exact le u (List.mem_cons_of_mem _ member)
      obtain ⟨adjust', others⟩ :=
        inductionHypothesis wellFormed.tail leLatch
      have first := scan_wire (wellFormed.fits t List.mem_cons_self)
        (wellFormed.small t List.mem_cons_self) (le t List.mem_cons_self)
      exact ⟨adjust', Emitter.scan_append_ok.mpr
        ⟨_, _, _, first, others, rfl⟩⟩

theorem run_writeFile (outputFile : Bytes) (frames : List Bytes) :
    run writeFile outputFile frames = .ok (outputFile ++ frames.flatten) := by
  induction frames generalizing outputFile with
  | nil => rw [run_nil, List.flatten_nil, List.append_nil]
  | cons frame rest inductionHypothesis =>
      rw [run_cons, writeFile, Except.bind, inductionHypothesis,
        List.flatten_cons, List.append_assoc]

/-- However the tags are read, the mapped ones are written. -/
theorem readDataAll_eq {tags : List SongTag} {reads : List Bytes}
    (wellFormed : WellFormed tags) (cut : reads.flatten = songBody tags) :
    readDataAll reads = .ok (songBody (mapTags 0 tags)) := by
  obtain ⟨adjust', scanned⟩ :=
    @scan_songBody tags 0 wellFormed fun t _ => UInt32.zero_le
  have fed : (timestampMapper.framer writeFile).feed
      ((timestampMapper.framer writeFile).fresh ({}, [])) (songBody tags) =
        .ok ((atHeader adjust').owned writeFile
          (songBody (mapTags 0 tags))) :=
    (Emitter.follows_feed timestampMapper writeFile (songBody tags)
      (atHeader 0) [] (atHeader adjust') (songBody (mapTags 0 tags))).mpr
        ⟨_, scanned, run_writeFile _ _⟩
  rw [readDataAll, Framer.readAll_eq_feed, cut, fed]
  rfl

/-! ## The shift -/

/-- Every timestamp reduced by the first one. -/
def shiftedByFirst : List SongTag → List SongTag
  | [] => []
  | first :: rest => (first :: rest).map (shiftBack first.ts)

/-- An offset that is not 0 stays. -/
theorem mapTags_of_ne_zero {adjust : UInt32} (set : adjust ≠ 0)
    (tags : List SongTag) :
    mapTags adjust tags = tags.map (shiftBack adjust) := by
  induction tags with
  | nil => rfl
  | cons t rest inductionHypothesis =>
      rw [mapTags, latch, if_neg set, inductionHypothesis, List.map_cons]

/-- Without an offset the first tag is put to 0. -/
theorem mapTags_zero_cons (t : SongTag) (rest : List SongTag) :
    mapTags 0 (t :: rest) = shiftBack t.ts t :: mapTags t.ts rest := by
  rw [mapTags, latch, if_pos rfl]

theorem shiftBack_zero (t : SongTag) : shiftBack 0 t = t := by
  rw [shiftBack, UInt32.sub_zero]

/-- Tags that are all at 0 already stay as they are. -/
theorem mapTags_of_zero {tags : List SongTag}
    (zeros : ∀ t, t ∈ tags → t.ts = 0) : mapTags 0 tags = tags := by
  induction tags with
  | nil => rfl
  | cons t rest inductionHypothesis =>
      rw [List.forall_mem_cons] at zeros
      rw [mapTags_zero_cons, zeros.1, shiftBack_zero,
        inductionHypothesis zeros.2]

/-- No others keep their timestamps. -/
theorem zeros_of_mapTags {tags : List SongTag}
    (same : (mapTags 0 tags).map SongTag.ts = tags.map SongTag.ts) :
    ∀ t, t ∈ tags → t.ts = 0 := by
  induction tags with
  | nil =>
      intro t member
      cases member
  | cons t rest inductionHypothesis =>
      rw [mapTags_zero_cons, List.map_cons, List.map_cons,
        List.cons.injEq] at same
      obtain ⟨here, others⟩ := same
      have zero : t.ts = 0 := here.symm.trans (UInt32.sub_self t.ts)
      rw [zero] at others
      exact List.forall_mem_cons.mpr ⟨zero, inductionHypothesis others⟩

theorem mapTags_bodies (tags : List SongTag) :
    ∀ adjust, (mapTags adjust tags).map SongTag.body =
      tags.map SongTag.body := by
  induction tags with
  | nil => exact fun _ => rfl
  | cons t rest inductionHypothesis =>
      intro adjust
      rw [mapTags, List.map_cons, List.map_cons, inductionHypothesis]
      rfl

theorem ts_eq_of_wire {t u : SongTag} (same : t.wire = u.wire) :
    t.ts = u.ts := by
  rw [SongTag.wire_eq, SongTag.wire_eq] at same
  simp only [SongTag.head, List.cons_append, List.cons.injEq] at same
  obtain ⟨_, _, _, _, high, middle, low, extended, _⟩ := same
  have value {a b : Nat} (eq : UInt8.ofNat a = UInt8.ofNat b) :
      a % 256 = b % 256 := by
    have numbers := congrArg UInt8.toNat eq
    rw [UInt8.toNat_ofNat', UInt8.toNat_ofNat'] at numbers
    exact numbers
  have high := value high
  have middle := value middle
  have low := value low
  have extended := value extended
  have bound := t.ts.toNat_lt
  have boundToo := u.ts.toNat_lt
  apply UInt32.toNat_inj.mp
  omega

/-- Tags with the same data are told apart by their bytes if their timestamps
differ. -/
theorem songBody_ts_inj {first : List SongTag} :
    ∀ {second : List SongTag},
      first.map SongTag.body = second.map SongTag.body →
      songBody first = songBody second →
      first.map SongTag.ts = second.map SongTag.ts := by
  induction first with
  | nil =>
      intro second bodies _
      rw [List.map_nil, eq_comm, List.map_eq_nil_iff] at bodies
      rw [bodies]
  | cons t rest inductionHypothesis =>
      intro second bodies same
      cases second with
      | nil => cases bodies
      | cons u others =>
          rw [List.map_cons, List.map_cons, List.cons.injEq] at bodies
          rw [songBody, List.flatMap_cons, songBody, List.flatMap_cons] at same
          have lengths : t.wire.length = u.wire.length := by
            rw [SongTag.length_wire, SongTag.length_wire, bodies.1]
          obtain ⟨here, there⟩ := List.append_inj same lengths
          rw [List.map_cons, List.map_cons, ts_eq_of_wire here,
            inductionHypothesis bodies.2 there]

/-- The file has every timestamp reduced by the first one unless the first one
is 0 and another one is not. -/
theorem readDataAll_shifts_iff {tags : List SongTag} {reads : List Bytes}
    (wellFormed : WellFormed tags) (cut : reads.flatten = songBody tags) :
    readDataAll reads = .ok (songBody (shiftedByFirst tags)) ↔
      (∀ first, tags.head? = some first → first.ts ≠ 0) ∨
        ∀ t, t ∈ tags → t.ts = 0 := by
  rw [readDataAll_eq wellFormed cut, Except.ok.injEq]
  cases tags with
  | nil => simp [mapTags, shiftedByFirst]
  | cons first rest =>
      have head : (∀ t, (first :: rest).head? = some t → t.ts ≠ 0) ↔
          first.ts ≠ 0 := by
        simp
      rw [head]
      by_cases zero : first.ts = 0
      · have unshifted : shiftedByFirst (first :: rest) = first :: rest := by
          rw [shiftedByFirst, zero, funext shiftBack_zero, List.map_id'']
          exact fun _ => rfl
        rw [unshifted, or_iff_right (not_not.mpr zero)]
        constructor
        · intro same
          exact zeros_of_mapTags (songBody_ts_inj (mapTags_bodies _ _) same)
        · intro zeros
          rw [mapTags_of_zero zeros]
      · refine iff_of_true ?_ (Or.inl zero)
        rw [mapTags_zero_cons, mapTags_of_ne_zero zero]
        rfl

/-- Two audio tags, 26 ms apart. -/
def twoTags (ts : UInt32) : List SongTag :=
  [⟨8, ts, [175, 1]⟩, ⟨8, ts + 26, [175, 1, 0]⟩]

theorem twoTags_wellFormed {ts : UInt32} (small : ts.toNat < 1000) :
    WellFormed (twoTags ts) := by
  have gap : (26 : UInt32).toNat = 26 := by decide
  have second : (ts + 26).toNat = ts.toNat + 26 := by
    rw [UInt32.toNat_add, gap]
    omega
  constructor
  · intro t member
    rw [SongTag.fits_iff]
    rcases List.mem_pair.mp member with isFirst | isSecond
    · rw [isFirst]
      show 2 + 4 + 11 ≤ 1048576
      decide
    · rw [isSecond]
      show 3 + 4 + 11 ≤ 1048576
      decide
  · intro t member
    rcases List.mem_pair.mp member with isFirst | isSecond
    · rw [isFirst]
      dsimp only
      omega
    · rw [isSecond]
      dsimp only
      omega
  · rw [twoTags, List.pairwise_pair, UInt32.le_iff_toNat_le]
    dsimp only
    omega

theorem readDataAll_shifts_late :
    readDataAll [(songBody (twoTags 400)).take 20,
        (songBody (twoTags 400)).drop 20] =
      .ok (songBody (shiftedByFirst (twoTags 400))) :=
  (readDataAll_shifts_iff (twoTags_wellFormed (by decide)) (by decide)).mpr
    (Or.inl (by decide))

/-- A second tag at 26 ms is put to 0 as well when the first is at 0. -/
theorem readDataAll_closes_gap :
    ¬ ∀ (tags : List SongTag) (reads : List Bytes), WellFormed tags →
      reads.flatten = songBody tags →
      readDataAll reads = .ok (songBody (shiftedByFirst tags)) := by
  intro shifts
  have wellFormed : WellFormed (twoTags 0) :=
    twoTags_wellFormed (by decide)
  have whole : [songBody (twoTags 0)].flatten = songBody (twoTags 0) :=
    List.flatten_singleton
  have written := readDataAll_eq wellFormed whole
  rw [shifts (twoTags 0) _ wellFormed whole, Except.ok.injEq] at written
  exact absurd written (by decide)

end FLVTimestampMapper

end GroupVoip
