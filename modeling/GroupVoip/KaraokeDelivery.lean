import GroupVoip.KaraokeProgress

/-!
# Every karaoke frame is delivered once to each stream

`loadASong` keeps the length of the file in an `int`.  A file that is short
enough for it is read to its end, every frame of it is passed on in order, and
once more in order with the delay.  A longer file is given up, at once or
somewhere on the way.
-/

namespace GroupVoip

open Library.Framing Library.Eventually

namespace Karaoke

/-- A song file: thirteen bytes of header, and tags. -/
structure Song where
  header : Bytes
  tags : List SongTag
  header_length : header.length = 13
  wellFormed : ∀ t ∈ tags, t.WellFormed

namespace Song

def body (song : Song) : Bytes :=
  songBody song.tags

def file (song : Song) : Bytes :=
  song.header ++ song.body

end Song

/-- Nothing is queued and nothing has been delivered. -/
structure KaraokeGenerator.Idle (g : KaraokeGenerator) : Prop where
  flvFrameQueue : g.flvFrameQueue = []
  delayObjectQueue : g.delayObjectQueue = []
  parsed : g.parsed = []
  delivered : g.delivered = []

/-- What a finished call has delivered: the parsed frames, which are the tags
up to a cancellation, and the same again with the delay. -/
structure DeliveredOnce (env : Surroundings) (adjustPTS : Int32)
    (tags : List SongTag) (s : Loading) : Prop where
  plain : s.generator.plain.map Delivery.frame =
    s.generator.parsed.map FLVFrameObject.frame
  inFileOrder : s.generator.parsed <+: tags.map (SongTag.adjusted adjustPTS)
  whole : ¬ s.CancelSeen env →
    s.generator.parsed = tags.map (SongTag.adjusted adjustPTS)
  delayed : List.Forall₂ Delays s.generator.plain s.generator.delayed

/-- Whatever the surroundings, a finished call has delivered every frame once
to each stream, and a call finishes when the clock goes on. -/
def Song.DeliversOnce (song : Song) : Prop :=
  ∀ (env : Surroundings) (g : KaraokeGenerator), g.Idle →
    (∀ n, (loading env g song.file n).point = .finished →
      DeliveredOnce env g.lastTimestamp song.tags
        (loading env g song.file n)) ∧
    (env.Unbounded → ∃ n, (loading env g song.file n).point = .finished)

theorem KaraokeGenerator.Idle.balanced {g : KaraokeGenerator} (idle : g.Idle) :
    g.Balanced := by
  obtain ⟨flvFrameQueue, delayObjectQueue, parsed, delivered⟩ := idle
  refine ⟨?_, ⟨[], ?_, ?_⟩, fun _ => flvFrameQueue⟩
  · rw [plain, delivered, flvFrameQueue, parsed]
    rfl
  · rw [plain, delivered, delayObjectQueue]
    rfl
  · rw [delayed, delivered]
    exact .nil

section Calls

variable {env : Surroundings} {g : KaraokeGenerator} {song : Song} {n : Nat}

theorem inv_loading (idle : g.Idle) :
    (loading env g song.file n).Inv env g song.body :=
  (inv_loadASong env idle.balanced idle.flvFrameQueue
    song.header_length).iterate n

theorem fine_of_fits (fits : ∀ t ∈ song.tags, t.Fits) :
    Loading.Fine env g song.body := by
  intro s inv
  obtain ⟨consumed, calls, reads⟩ := inv.reads
  exact not_overflowed song.wellFormed fits reads.split reads.scanned

theorem ofNat_file_sub (song : Song) :
    Int32.ofNat song.file.length - 13 = Int32.ofNat song.body.length := by
  rw [Song.file, List.length_append, song.header_length, Nat.add_comm,
    Int32.ofNat_add]
  exact Int32.add_sub_cancel _ _

theorem counted_loading (idle : g.Idle) (exact : env.Exact song.body)
    (fits : ∀ t ∈ song.tags, t.Fits) :
    (loading env g song.file n).Counted song.body := by
  induction n with
  | zero =>
      refine ⟨ofNat_file_sub song, Int.le_refl 0, ?_, ?_⟩
      · show (0 : Int) + 0 + ((song.file.drop 13).length : Int) = _
        rw [Song.file, ← song.header_length, List.drop_left]
        omega
      · exact Int.le_max_left _ _
  | succ n inductionHypothesis =>
      rw [loading, Function.iterate_succ_apply'] at *
      exact inductionHypothesis.step exact <|
        fine_of_fits fits _ (inv_loading idle).step

theorem finishes (idle : g.Idle) (exact : env.Exact song.body)
    (fits : ∀ t ∈ song.tags, t.Fits) (unbounded : env.Unbounded) :
    ∃ n, (loading env g song.file n).point = .finished := by
  have good : (loading env g song.file 0).Good env g song.body :=
    ⟨inv_loading idle, counted_loading idle exact fits⟩
  exact good.leads_finished exact (fine_of_fits fits) unbounded rfl

/-- Behind the last step the pending bytes are gone. -/
theorem finished_split (idle : g.Idle)
    (finished : (loading env g song.file n).point = .finished) :
    ∃ consumed, consumed ++ (loading env g song.file n).input = song.body ∧
      flvReader.scan (newFLVParser g.lastTimestamp) consumed =
        .ok ((loading env g song.file n).flvParser,
          (loading env g song.file n).generator.parsed) := by
  have inv := @inv_loading env g song n idle
  obtain ⟨consumed, calls, split, scanned, parsed, -⟩ := inv.reads
  have nothing : (loading env g song.file n).pending = [] := by
    rw [Loading.pending, finished]
  rw [idle.parsed, List.nil_append] at parsed
  rw [nothing, List.nil_append] at split
  rw [parsed]
  exact ⟨consumed, split, scanned⟩

/-- A finished call has delivered once what it has parsed. -/
theorem deliveredOnce_of_whole (idle : g.Idle)
    (fits : ∀ t ∈ song.tags, t.Fits)
    (finished : (loading env g song.file n).point = .finished)
    (whole : ¬ (loading env g song.file n).CancelSeen env →
      (loading env g song.file n).input = []) :
    DeliveredOnce env g.lastTimestamp song.tags
      (loading env g song.file n) := by
  have inv := @inv_loading env g song n idle
  obtain ⟨consumed, split, scanned⟩ := finished_split idle finished
  have ended := inv.ended
  rw [Loading.Ended, finished] at ended
  have notThrown := fine_of_fits fits _ inv
  have emptyQueue :
      (loading env g song.file n).generator.flvFrameQueue = [] := by
    by_contra queued
    exact notThrown (ended.2.1 queued)
  obtain ⟨inOrder, ⟨past, delaySplit, later⟩, -⟩ := inv.balanced
  rw [emptyQueue, List.map_nil, List.append_nil] at inOrder
  rw [ended.2.2, List.map_nil, List.append_nil] at delaySplit
  rw [← delaySplit] at later
  have front := calls_prefix song.wellFormed split scanned
  refine ⟨inOrder, front.trans ((List.takeWhile_prefix _).map _), ?_, later⟩
  intro notCancelled
  rw [whole notCancelled, List.append_nil] at split
  rw [split] at scanned
  exact calls_whole song.wellFormed fits scanned

/-- A short file is read to its end if the song is not cancelled. -/
theorem input_of_short (idle : g.Idle) (fits : ∀ t ∈ song.tags, t.Fits)
    (short : song.body.length < 2147483648)
    (finished : (loading env g song.file n).point = .finished)
    (notCancelled : ¬ (loading env g song.file n).CancelSeen env) :
    (loading env g song.file n).input = [] := by
  have inv := @inv_loading env g song n idle
  have counted := @counted_loading env g song n idle (.inl short) fits
  have ended := inv.ended
  rw [Loading.Ended, finished] at ended
  have all : ¬ (loading env g song.file n).bytesTotal <
      (loading env g song.file n).fileLen := by
    intro left
    rcases ended.1 left with seen | overflowed
    · exact notCancelled seen
    · exact fine_of_fits fits _ inv overflowed
  have total := counted.total
  rw [Int32.lt_iff_toInt_lt, counted.fileLen,
    Int32.toInt_ofNat_of_lt short] at all
  apply List.eq_nil_of_length_eq_zero
  omega

/-! ## Long files -/

/-- Surroundings that read single bytes and never cancel. -/
def byteByByte : Surroundings where
  currentTimeMillis k := k
  bCancelCurrentSong _ := false
  readSize _ := 1
  clock_mono := by
    intro i j later
    omega
  cancel_stays := by
    intro i j later set
    cases set

theorem byteByByte_unbounded : byteByByte.Unbounded := by
  intro t
  refine ⟨t.toNat, ?_⟩
  exact Int.self_le_toNat t

/-- A file that is too long is not read to its end. -/
theorem not_deliversOnce_of_long (fits : ∀ t ∈ song.tags, t.Fits)
    (long : 2147483648 ≤ song.body.length) : ¬ song.DeliversOnce := by
  intro delivers
  have exact : byteByByte.Exact song.body := .inr fun _ => Nat.le_refl 1
  have idle : KaraokeGenerator.Idle {} := ⟨rfl, rfl, rfl, rfl⟩
  obtain ⟨safe, ends⟩ := delivers byteByByte {} idle
  obtain ⟨n, finished⟩ := ends byteByByte_unbounded
  have counted := @counted_loading _ _ _ n idle exact fits
  obtain ⟨consumed, split, scanned⟩ := finished_split idle finished
  have notSeen :
      ¬ (loading byteByByte {} song.file n).CancelSeen byteByByte := by
    rintro ⟨k, -, set⟩
    cases set
  have whole := (safe n finished).whole notSeen
  have left : (loading byteByByte {} song.file n).input ≠ [] := by
    intro nothing
    have total := counted.total
    have bounded := counted.bounded
    have small := (loading byteByByte {} song.file n).fileLen.toInt_lt
    rw [nothing, List.length_nil] at total
    omega
  have short := calls_short song.wellFormed fits split left scanned
  rw [whole, List.length_map] at short
  omega

end Calls

/-- Exactly the files with less than 2^31 bytes behind the header are
delivered. -/
theorem loadASong_deliversOnce_iff (song : Song)
    (fits : ∀ t ∈ song.tags, t.Fits) :
    song.DeliversOnce ↔ song.body.length < 2147483648 := by
  constructor
  · intro delivers
    by_contra long
    exact not_deliversOnce_of_long fits (by omega) delivers
  · intro short env g idle
    refine ⟨fun n finished => ?_, finishes idle (.inl short) fits⟩
    apply deliveredOnce_of_whole idle fits finished
    exact input_of_short idle fits short finished

/-- A song with one tag. -/
def shortSong : Song where
  header := List.replicate 13 0
  tags := [⟨8, 40, [175, 1, 7]⟩]
  header_length := rfl
  wellFormed := by decide

theorem loadASong_deliversOnce_shortSong :
    (∀ t ∈ shortSong.tags, t.Fits) ∧ shortSong.DeliversOnce := by
  have fits : ∀ t ∈ shortSong.tags, t.Fits := by decide
  exact ⟨fits, (loadASong_deliversOnce_iff shortSong fits).mpr (by decide)⟩

/-- A tag as long as the parser's buffer. -/
def longTag : SongTag :=
  ⟨9, 0, List.replicate 1048561 0⟩

theorem longTag_length : longTag.body.length = 1048561 :=
  List.length_replicate

theorem longTag_fits : longTag.Fits := by
  rw [SongTag.fits_iff, longTag_length]
  decide

def longSong : Song where
  header := List.replicate 13 0
  tags := List.replicate 2048 longTag
  header_length := rfl
  wellFormed := by
    intro t member
    rw [List.eq_of_mem_replicate member, SongTag.WellFormed, longTag_length]
    decide

theorem longSong_length : longSong.body.length = 2147483648 := by
  have each (count : Nat) :
      (songBody (List.replicate count longTag)).length = count * 1048576 := by
    rw [songBody, List.length_flatMap, List.map_replicate,
      SongTag.length_wire, longTag_length, List.sum_replicate_nat]
  exact each 2048

theorem loadASong_loses_longSong :
    (∀ t ∈ longSong.tags, t.Fits) ∧ ¬ longSong.DeliversOnce := by
  have fits : ∀ t ∈ longSong.tags, t.Fits := by
    intro t member
    rw [List.eq_of_mem_replicate member]
    exact longTag_fits
  have long : 2147483648 ≤ longSong.body.length := by rw [longSong_length]
  exact ⟨fits, not_deliversOnce_of_long fits long⟩

end Karaoke

end GroupVoip
