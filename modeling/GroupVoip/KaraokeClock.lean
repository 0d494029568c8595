import GroupVoip.KaraokeDelivery

/-!
# The clock of the karaoke stream

The running offset is added to the three low bytes of a timestamp, and the
reader at the other end puts the untouched fourth byte on top.  The two agree
when the fourth byte is the one that belongs to the sum; then the timestamps
on the wire never run backwards, from one song to the next.
-/

namespace GroupVoip

open Library.Framing Library.Runs Library.WireBytes GroupMixer

namespace Karaoke

/-- The timestamp that `onFrameGenerated` reads from the first tag of a
frame. -/
def decodedTimestamp (frame : Bytes) : Except ArrayFailure UInt32 := do
  let hasHeader ← startsWithFlv frame
  let (_, _, msgTimestamp) ← readTagHead frame (if hasHeader then 13 else 0)
  return msgTimestamp

/-! ## The tag with its timestamp written back -/

namespace SongTag

/-- The 32 bits of the timestamp after the three low bytes were written. -/
def wireTs (adjustPTS : Int32) (t : SongTag) : UInt32 :=
  UInt32.ofNat ((t.adjustedTs adjustPTS).toUInt32.toNat % 16777216 +
    t.ts.toNat / 16777216 * 16777216)

variable {adjustPTS : Int32} {t : SongTag}

theorem wireTs_toNat : (t.wireTs adjustPTS).toNat =
    (t.adjustedTs adjustPTS).toUInt32.toNat % 16777216 +
      t.ts.toNat / 16777216 * 16777216 := by
  have := t.ts.toNat_lt
  rw [wireTs, UInt32.toNat_ofNat']
  omega

theorem adjusted_frame :
    (t.adjusted adjustPTS).frame =
      wireTag t.tagType (t.wireTs adjustPTS) t.body := by
  have low (x : UInt32) (shift : UInt32) (small : shift.toNat < 32)
      (n : Nat) (same : x.toNat / 2 ^ shift.toNat % 256 = n % 256) :
      byteAt x shift = UInt8.ofNat n := by
    rw [byteAt_eq x small]
    apply UInt8.toNat_inj.mp
    rw [UInt8.toNat_ofNat', UInt8.toNat_ofNat']
    exact same
  have sum := @wireTs_toNat adjustPTS t
  have fourth : t.ts.toNat / 16777216 =
      (t.wireTs adjustPTS).toNat / 16777216 := by
    omega
  have rewritten : (⟨t.tagType, t.wireTs adjustPTS, t.body⟩ : SongTag).wire =
      writeBack t.wire (t.adjustedTs adjustPTS) := by
    have rest : (⟨t.tagType, t.wireTs adjustPTS, t.body⟩ : SongTag).remaining =
        t.remaining := by
      simp only [remaining]
    rw [wire_eq, wire_eq, rest,
      writeBack_append _ _ (by rw [length_head]; decide)]
    refine congrArg (· ++ t.remaining) ?_
    rw [writeBack,
      low _ 16 (by decide) ((t.wireTs adjustPTS).toNat / 256 / 256),
      low _ 8 (by decide) ((t.wireTs adjustPTS).toNat / 256),
      low _ 0 (by decide) (t.wireTs adjustPTS).toNat]
    · simp only [head, fourth]
      rfl
    · have shift : 2 ^ (0 : UInt32).toNat = 1 := by decide
      rw [shift]
      omega
    · have shift : 2 ^ (8 : UInt32).toNat = 256 := by decide
      rw [shift]
      omega
    · have shift : 2 ^ (16 : UInt32).toNat = 65536 := by decide
      rw [shift]
      omega
  exact rewritten.symm

/-- The sum of the offset and the three low bytes. -/
def total (adjustPTS : Int32) (t : SongTag) : Int :=
  t.ts24 + adjustPTS.toInt

/-- The fourth byte of the timestamp is the one of the sum. -/
def Extended (adjustPTS : Int32) (t : SongTag) : Prop :=
  (t.ts.toNat / 16777216 : Int) = t.total adjustPTS / 16777216

instance (t : SongTag) : Decidable (t.Extended adjustPTS) :=
  inferInstanceAs (Decidable (_ = _))

theorem adjustedTs_toInt (nonneg : 0 ≤ adjustPTS.toInt)
    (below : t.total adjustPTS < 2147483648) :
    (t.adjustedTs adjustPTS).toInt = t.total adjustPTS := by
  rw [total] at below ⊢
  exact Loading.toInt_ofNat_add nonneg (by omega)

theorem toNat_toUInt32 {x : Int32} (nonneg : 0 ≤ x.toInt) :
    (x.toUInt32.toNat : Int) = x.toInt := by
  have signed : x.toInt = x.toBitVec.toInt := rfl
  have unsigned : x.toUInt32.toNat = x.toBitVec.toNat := rfl
  have bound := x.toBitVec.isLt
  rw [signed, BitVec.toInt_eq_toNat_cond] at nonneg ⊢
  rw [unsigned]
  by_cases low : 2 * x.toBitVec.toNat < 2 ^ 32
  · rw [if_pos low]
  · rw [if_neg low] at nonneg
    omega

/-- The reader puts the sum together again. -/
theorem wireTs_eq (nonneg : 0 ≤ adjustPTS.toInt)
    (below : t.total adjustPTS < 2147483648) (extended : t.Extended adjustPTS) :
    t.wireTs adjustPTS = (t.adjustedTs adjustPTS).toUInt32 := by
  apply UInt32.toNat_inj.mp
  have sum := adjustedTs_toInt nonneg below
  have positive : 0 ≤ t.total adjustPTS := by
    rw [total]
    omega
  have value := @toNat_toUInt32 (t.adjustedTs adjustPTS) (by omega)
  have fourth : (t.ts.toNat / 16777216 : Int) = t.total adjustPTS / 16777216 :=
    extended
  rw [wireTs_toNat]
  omega

/-- With the right fourth bytes the sums are in the order of the
timestamps. -/
theorem total_mono {t' : SongTag} (sorted : t.ts ≤ t'.ts)
    (extended : t.Extended adjustPTS) (extended' : t'.Extended adjustPTS) :
    t.total adjustPTS ≤ t'.total adjustPTS := by
  have order : t.ts.toNat ≤ t'.ts.toNat := sorted
  rw [Extended, total, ts24] at extended extended'
  rw [total, total, ts24, ts24]
  omega

theorem decodedTimestamp_adjusted (fits : t.Fits) :
    decodedTimestamp (t.adjusted adjustPTS).frame =
      .ok (t.wireTs adjustPTS) := by
  have small : t.body.length < 16777216 := by
    have := t.fits_iff.mp fits
    rw [bufCapacity] at this
    omega
  have high : UInt8.ofNat (t.body.length / 256 / 256) ≠ 76 := by
    have length := t.fits_iff.mp fits
    rw [bufCapacity] at length
    intro same
    have value := congrArg UInt8.toNat same
    rw [UInt8.toNat_ofNat'] at value
    change _ = 76 at value
    omega
  have plain : startsWithFlv (wireTag t.tagType (t.wireTs adjustPTS) t.body) =
      .ok false := by
    by_cases letter : t.tagType = 70
    · have second : arrayAt (wireTag t.tagType (t.wireTs adjustPTS) t.body) 1 =
          .ok (UInt8.ofNat (t.body.length / 256 / 256)) := rfl
      have first : arrayAt (wireTag t.tagType (t.wireTs adjustPTS) t.body) 0 =
          .ok t.tagType := rfl
      rw [startsWithFlv, first]
      simp only [bind, Except.bind]
      rw [if_pos letter, second]
      simp only
      rw [if_neg high]
      rfl
    · have stale := startsWithFlv_wireTag (t.wireTs adjustPTS) t.body [] letter
      rw [List.append_nil] at stale
      exact stale
  have head := readTagHead_wireTag [] [] t.tagType (t.wireTs adjustPTS) small
  rw [List.nil_append, List.append_nil, List.length_nil] at head
  rw [adjusted_frame, decodedTimestamp, plain]
  simp only [bind, Except.bind, Bool.false_eq_true, if_false, head]
  rfl

/-- What is decoded is the timestamp of the message. -/
theorem onFrameGenerated_adjusted {streamId : Int} (mapped : streamId ≠ -1)
    {kind : RTMP.EventKind} (known : eventKind t.tagType = some kind)
    (wellFormed : t.WellFormed) :
    (onFrameGenerated streamId (t.adjusted adjustPTS).frame
        (t.adjusted adjustPTS).frame.length false).1 =
      [.handleMessageReceived (newPacket streamId t.tagType kind
        (UInt32.ofNat t.body.length) (t.wireTs adjustPTS) t.body)] := by
  have message := onFrameGenerated_wireTag mapped (t.wireTs adjustPTS)
    wellFormed known []
  rw [List.append_nil] at message
  rw [adjusted_frame, message]

end SongTag

/-! ## One song after the other -/

/-- The karaoke thread between two songs, or in one. -/
inductive Station where
  | betweenSongs (g : KaraokeGenerator)
  | inSong (env : Surroundings) (s : Loading)

inductive Act where
  | loadASong (song : Song) (env : Surroundings)
  | turn

namespace Station

def start : Station :=
  .betweenSongs {}

def generator : Station → KaraokeGenerator
  | .betweenSongs g => g
  | .inSong _ s => s.generator

/-- The loop of `run`, step by step. -/
def act : Station → Act → Except Unit Station
  | .betweenSongs g, .loadASong song env =>
      .ok (.inSong env (Karaoke.loadASong env g song.file))
  | .inSong env s, .turn =>
      if (s.step env).point = .finished then
        .ok (.betweenSongs (s.step env).generator)
      else .ok (.inSong env (s.step env))
  | _, _ => .error ()

/-- What the end of a song adds to the running offset. -/
def duration (env : Surroundings) (s : Loading) : Int :=
  match s.point with
  | .delayDrain startTime => s.generator.now env - startTime
  | _ => 0

/-- The timestamps of a song do not decrease, and the running total stays
below 2^31. -/
def Assumed : Station → Act → Prop
  | .betweenSongs g, .loadASong song _ =>
      song.tags.Pairwise (fun t t' => t.ts ≤ t'.ts) ∧
        ∀ t ∈ song.tags, t.total g.lastTimestamp < 2147483648
  | .inSong env s, .turn =>
      s.generator.delayObjectQueue = [] →
        s.generator.lastTimestamp.toInt + duration env s < 2147483648
  | _, _ => True

instance : ∀ s a, Decidable (Assumed s a)
  | .betweenSongs _, .loadASong _ _ => inferInstanceAs (Decidable (_ ∧ _))
  | .inSong _ _, .turn => inferInstanceAs (Decidable (_ → _))
  | .betweenSongs _, .turn => isTrue trivial
  | .inSong _ _, .loadASong _ _ => isTrue trivial

/-- A song starts with an empty queue, and its fourth timestamp bytes are
those of the sums with the running offset. -/
def Extends : Station → Act → Prop
  | .betweenSongs g, .loadASong song _ =>
      g.flvFrameQueue = [] ∧ ∀ t ∈ song.tags, t.Extended g.lastTimestamp
  | _, _ => True

instance : ∀ s a, Decidable (Extends s a)
  | .betweenSongs _, .loadASong _ _ => inferInstanceAs (Decidable (_ ∧ _))
  | .inSong _ _, .turn => isTrue trivial
  | .betweenSongs _, .turn => isTrue trivial
  | .inSong _ _, .loadASong _ _ => isTrue trivial

end Station

/-- What the reader decodes from the frames of the original stream is what the
parser passed on with them, and never decreases. -/
structure ClockFaithful (g : KaraokeGenerator) : Prop where
  decoded : g.plain.map (fun d => decodedTimestamp d.frame) =
    (g.parsed.take g.plain.length).map fun f => .ok f.timestamp.toUInt32
  nondecreasing : ((g.parsed.take g.plain.length).map fun f =>
    f.timestamp.toUInt32).Pairwise (· ≤ ·)

/-! ## The clock of the parsed frames -/

/-- The frames decode to their timestamps, which do not decrease and do not
pass `last`. -/
structure Clocked (parsed : List FLVFrameObject) (last : Int32) : Prop where
  decoded : ∀ f ∈ parsed,
    decodedTimestamp f.frame = .ok f.timestamp.toUInt32
  sorted : parsed.Pairwise fun f f' => f.timestamp.toInt ≤ f'.timestamp.toInt
  nonneg : ∀ f ∈ parsed, 0 ≤ f.timestamp.toInt
  passed : ∀ f ∈ parsed, f.timestamp.toInt ≤ last.toInt
  last_nonneg : 0 ≤ last.toInt

theorem Clocked.mono {parsed : List FLVFrameObject} {last last' : Int32}
    (clocked : Clocked parsed last) (later : last.toInt ≤ last'.toInt) :
    Clocked parsed last' where
  decoded := clocked.decoded
  sorted := clocked.sorted
  nonneg := clocked.nonneg
  passed f member := (clocked.passed f member).trans later
  last_nonneg := clocked.last_nonneg.trans later

/-- The last of a sequence of frames that does not decrease is the latest. -/
theorem le_lastPassed {calls : List FLVFrameObject} :
    ∀ {adjustPTS : Int32},
      (calls.Pairwise fun f f' => f.timestamp.toInt ≤ f'.timestamp.toInt) →
      (∀ f ∈ calls, adjustPTS.toInt ≤ f.timestamp.toInt) →
      adjustPTS.toInt ≤ (lastPassed adjustPTS calls).toInt ∧
        ∀ f ∈ calls,
          f.timestamp.toInt ≤ (lastPassed adjustPTS calls).toInt := by
  induction calls with
  | nil => exact fun _ _ => ⟨Int.le_refl _, by simp⟩
  | cons f rest inductionHypothesis =>
      intro adjustPTS sorted later
      rw [List.pairwise_cons] at sorted
      obtain ⟨first, others⟩ := inductionHypothesis sorted.2 sorted.1
      refine ⟨(later f List.mem_cons_self).trans first, ?_⟩
      rw [List.forall_mem_cons]
      exact ⟨first, others⟩

/-- The frames of a song go on where those before it have stopped. -/
theorem Clocked.song {parsed calls : List FLVFrameObject} {last : Int32}
    {tags : List SongTag} (clocked : Clocked parsed last)
    (front : calls <+: (tags.takeWhile fun t => decide t.Fits).map
      (SongTag.adjusted last))
    (sorted : tags.Pairwise fun t t' => t.ts ≤ t'.ts)
    (below : ∀ t ∈ tags, t.total last < 2147483648)
    (extended : ∀ t ∈ tags, t.Extended last) :
    Clocked (parsed ++ calls) (lastPassed last calls) := by
  obtain ⟨shown, shownFront, rfl⟩ := List.prefix_map_iff.mp front
  have ofTags (t : SongTag) (member : t ∈ shown) : t ∈ tags ∧ t.Fits := by
    have kept := shownFront.subset member
    have fits := List.all_eq_true.mp (List.all_takeWhile) t kept
    exact ⟨(List.takeWhile_prefix _).subset kept, of_decide_eq_true fits⟩
  have value (t : SongTag) (member : t ∈ shown) :
      (t.adjusted last).timestamp.toInt = t.total last :=
    SongTag.adjustedTs_toInt clocked.last_nonneg (below t (ofTags t member).1)
  have later (t : SongTag) : last.toInt ≤ t.total last := by
    rw [SongTag.total]
    omega
  have shownSorted : (shown.map (SongTag.adjusted last)).Pairwise
      fun f f' => f.timestamp.toInt ≤ f'.timestamp.toInt := by
    rw [List.pairwise_map]
    have inOrder := sorted.sublist
      (shownFront.sublist.trans (List.takeWhile_sublist _))
    refine inOrder.imp_of_mem ?_
    intro t t' member member' order
    rw [value t member, value t' member']
    exact SongTag.total_mono order (extended t (ofTags t member).1)
      (extended t' (ofTags t' member').1)
  have shownLater : ∀ f ∈ shown.map (SongTag.adjusted last),
      last.toInt ≤ f.timestamp.toInt := by
    rw [List.forall_mem_map]
    intro t member
    rw [value t member]
    exact later t
  obtain ⟨lastLater, latest⟩ := le_lastPassed shownSorted shownLater
  have nonneg := clocked.last_nonneg
  refine ⟨?_, ?_, ?_, ?_, nonneg.trans lastLater⟩
  · rw [List.forall_mem_append]
    refine ⟨clocked.decoded, ?_⟩
    rw [List.forall_mem_map]
    intro t member
    obtain ⟨ofSong, fits⟩ := ofTags t member
    rw [SongTag.decodedTimestamp_adjusted fits,
      SongTag.wireTs_eq nonneg (below t ofSong) (extended t ofSong)]
    rfl
  · rw [List.pairwise_append]
    refine ⟨clocked.sorted, shownSorted, ?_⟩
    intro f member f' member'
    exact (clocked.passed f member).trans (shownLater f' member')
  · rw [List.forall_mem_append]
    exact ⟨clocked.nonneg, fun f member => nonneg.trans (shownLater f member)⟩
  · rw [List.forall_mem_append]
    exact ⟨fun f member => (clocked.passed f member).trans lastLater, latest⟩

/-! ## Runs -/

namespace Loading

/-- The only step that finishes a song. -/
theorem finished_step {env : Surroundings} {s : Loading}
    (unfinished : s.point ≠ .finished)
    (finished : (s.step env).point = .finished) :
    s.generator.delayObjectQueue = [] ∧
      (s.step env).generator.parsed = s.generator.parsed ∧
      (s.step env).generator.lastTimestamp = Int32.ofInt
        (s.generator.lastTimestamp.toInt + Station.duration env s) := by
  rw [Loading.step] at finished ⊢
  cases here : s.point with
  | delayDrain startTime =>
      rw [here] at finished
      simp only [atDelayDrain] at finished ⊢
      by_cases empty : s.generator.delayObjectQueue = []
      · rw [if_pos empty]
        refine ⟨empty, rfl, ?_⟩
        rw [Station.duration, here]
      · rw [if_neg empty, here] at finished
        cases finished
  | finished => exact absurd here unfinished
  | loopHead =>
      rw [here] at finished
      simp only [atLoopHead] at finished
      split_ifs at finished
  | frameWait =>
      rw [here] at finished
      simp only [atFrameWait] at finished
      split at finished
      · cases finished
      · split_ifs at finished
        exact absurd finished unfinished
  | moreData =>
      rw [here] at finished
      simp only [atMoreData] at finished
      split_ifs at finished
  | readBuf result =>
      rw [here] at finished
      simp only [atReadBuf] at finished
      split_ifs at finished
  | turnEnd =>
      rw [here] at finished
      cases finished
  | afterLoop =>
      rw [here] at finished
      simp only [atAfterLoop] at finished
      split_ifs at finished
  | cancelDrain =>
      rw [here] at finished
      simp only [atCancelDrain] at finished
      split at finished
      · cases finished
      · split_ifs at finished <;> exact absurd finished unfinished
  | emptyDelayObjectQueue =>
      rw [here] at finished
      cases finished

end Loading

namespace Station

/-- What holds between the songs, and what holds in one of them. -/
def Inv : Station → Prop
  | .betweenSongs g => g.Balanced ∧ Clocked g.parsed g.lastTimestamp
  | .inSong env s => ∃ (g₀ : KaraokeGenerator) (song : Song),
      Clocked g₀.parsed g₀.lastTimestamp ∧
      s.Inv env g₀ song.body ∧ s.point ≠ .finished ∧
      song.tags.Pairwise (fun t t' => t.ts ≤ t'.ts) ∧
      (∀ t ∈ song.tags, t.total g₀.lastTimestamp < 2147483648) ∧
      ∀ t ∈ song.tags, t.Extended g₀.lastTimestamp

theorem clocked_inSong {env : Surroundings} {s : Loading}
    (inv : Inv (.inSong env s)) :
    s.generator.Balanced ∧
      Clocked s.generator.parsed s.generator.lastTimestamp := by
  obtain ⟨g₀, song, clocked, loading, unfinished, others⟩ := inv
  obtain ⟨sorted, below, extended⟩ := others
  obtain ⟨consumed, calls, reads⟩ := loading.reads
  have front := calls_prefix song.wellFormed reads.split reads.scanned
  rw [reads.parsed, reads.lastTimestamp unfinished]
  exact ⟨loading.balanced, clocked.song front sorted below extended⟩

theorem Inv.generator {s : Station} (inv : s.Inv) :
    s.generator.Balanced ∧
      Clocked s.generator.parsed s.generator.lastTimestamp := by
  cases s with
  | betweenSongs g => exact inv
  | inSong env s => exact clocked_inSong inv

theorem duration_nonneg {env : Surroundings} {s : Loading}
    (timed : s.Timed env) : 0 ≤ duration env s := by
  rw [duration]
  rw [Loading.Timed] at timed
  cases here : s.point with
  | delayDrain startTime =>
      rw [here] at timed
      exact Int.sub_nonneg_of_le timed
  | _ => exact Int.le_refl 0

theorem toInt_ofInt {x : Int} (nonneg : 0 ≤ x) (below : x < 2147483648) :
    (Int32.ofInt x).toInt = x := by
  have size : Int32.size = 4294967296 := rfl
  rw [Int32.toInt_ofInt, size]
  exact Int.bmod_eq_of_le (by omega) (by omega)

theorem Inv.act {s s' : Station} {a : Act} (inv : s.Inv)
    (meets : Assumed s a ∧ Extends s a) (stepped : s.act a = .ok s') :
    s'.Inv := by
  cases s with
  | betweenSongs g =>
      cases a with
      | turn => cases stepped
      | loadASong song env =>
          cases stepped
          obtain ⟨⟨sorted, below⟩, empty, extended⟩ := meets
          refine ⟨g, song, inv.2, ?_, by simp [Karaoke.loadASong], sorted,
            below, extended⟩
          exact inv_loadASong env inv.1 empty song.header_length
  | inSong env s =>
      cases a with
      | loadASong song env => cases stepped
      | turn =>
          have here := clocked_inSong inv
          obtain ⟨g₀, song, clocked, loading, unfinished, others⟩ := inv
          rw [Station.act] at stepped
          by_cases finished : (s.step env).point = .finished
          · rw [if_pos finished, Except.ok.injEq] at stepped
            rw [← stepped]
            obtain ⟨empty, parsed, lastTimestamp⟩ :=
              Loading.finished_step unfinished finished
            have below := meets.1 empty
            have nonneg := here.2.last_nonneg
            have longer := duration_nonneg loading.timed
            refine ⟨loading.step.balanced, ?_⟩
            rw [parsed, lastTimestamp]
            apply here.2.mono
            rw [toInt_ofInt (by omega) below]
            omega
          · rw [if_neg finished, Except.ok.injEq] at stepped
            rw [← stepped]
            exact ⟨g₀, song, clocked, loading.step, finished, others⟩

end Station

/-- Frames that are clocked make a faithful clock on the wire. -/
theorem clockFaithful_of_clocked {g : KaraokeGenerator} {last : Int32}
    (balanced : g.Balanced) (clocked : Clocked g.parsed last) :
    ClockFaithful g := by
  have frames : g.plain.map Delivery.frame =
      (g.parsed.take g.plain.length).map FLVFrameObject.frame := by
    rw [List.map_take, ← balanced.inOrder, List.take_left']
    exact List.length_map _
  refine ⟨?_, ?_⟩
  · have decode : g.plain.map (fun d => decodedTimestamp d.frame) =
        (g.plain.map Delivery.frame).map decodedTimestamp := by
      rw [List.map_map]
      rfl
    rw [decode, frames, List.map_map]
    apply List.map_congr_left
    intro f member
    exact clocked.decoded f (List.mem_of_mem_take member)
  · rw [List.pairwise_map]
    refine (clocked.sorted.sublist (List.take_sublist _ _)).imp_of_mem ?_
    intro f f' member member' order
    have nonneg := clocked.nonneg f (List.mem_of_mem_take member)
    have nonneg' := clocked.nonneg f' (List.mem_of_mem_take member')
    have low := SongTag.toNat_toUInt32 nonneg
    have high := SongTag.toNat_toUInt32 nonneg'
    show f.timestamp.toUInt32.toNat ≤ f'.timestamp.toUInt32.toNat
    omega

/-- As long as the fourth timestamp bytes are those of the sums, the clock of
the karaoke stream is faithful and never runs backwards. -/
theorem karaokeClock_faithful {steps : List Act} {final : Station}
    (assumed : EveryStep Station.act Station.Assumed .start steps)
    (extended : EveryStep Station.act Station.Extends .start steps)
    (reached : run Station.act .start steps = .ok final) :
    ClockFaithful final.generator := by
  have initial : Station.start.Inv := by
    refine ⟨KaraokeGenerator.Idle.balanced ⟨rfl, rfl, rfl, rfl⟩, ?_⟩
    exact ⟨by simp, .nil, by simp, by simp, Int.le_refl 0⟩
  have inv := run_invariant_of_everyStep Station.Inv
    (fun s a t holds meets stepped => holds.act meets stepped) initial
    (assumed.and extended) reached
  exact clockFaithful_of_clocked inv.generator.1 inv.generator.2

theorem everySecond_mono {i j : Nat} (later : i ≤ j) :
    Int.ofNat (1000 * i) ≤ Int.ofNat (1000 * j) :=
  Int.ofNat_le.mpr (Nat.mul_le_mul_left 1000 later)

theorem everySecond_stays {i j : Nat} (_ : i ≤ j) (set : false = true) :
    false = true :=
  set

/-- A second passes between two readings of the clock. -/
def everySecond : Surroundings where
  currentTimeMillis k := Int.ofNat (1000 * k)
  bCancelCurrentSong _ := false
  readSize _ := 4096
  clock_mono := everySecond_mono
  cancel_stays := everySecond_stays

theorem oneTag_header_length : (List.replicate 13 (0 : UInt8)).length = 13 :=
  rfl

theorem oneTag_wellFormed (ts : UInt32) :
    ∀ t ∈ [SongTag.mk 8 ts []], t.WellFormed := by
  intro t member
  rw [List.mem_singleton.mp member]
  exact Nat.succ_pos _

/-- A song with one tag without data. -/
def oneTag (ts : UInt32) : Song where
  header := List.replicate 13 0
  tags := [⟨8, ts, []⟩]
  header_length := oneTag_header_length
  wellFormed := oneTag_wellFormed ts

/-- The calls and steps of a song with one tag. -/
def playing (ts : UInt32) : List Act :=
  .loadASong (oneTag ts) everySecond :: List.replicate 9 .turn

theorem karaokeClock_faithful_twoSongs :
    ∃ final, run Station.act .start (playing 40 ++ playing 7) = .ok final ∧
      EveryStep Station.act Station.Assumed .start (playing 40 ++ playing 7) ∧
      EveryStep Station.act Station.Extends .start (playing 40 ++ playing 7) ∧
      ClockFaithful final.generator := by
  have succeeds :
      (run Station.act .start (playing 40 ++ playing 7)).isOk = true := by
    decide +kernel
  obtain ⟨final, reached⟩ := exists_ok succeeds
  have assumed : EveryStep Station.act Station.Assumed .start
      (playing 40 ++ playing 7) := by
    decide +kernel
  have extended : EveryStep Station.act Station.Extends .start
      (playing 40 ++ playing 7) := by
    decide +kernel
  exact ⟨final, reached, assumed, extended,
    karaokeClock_faithful assumed extended reached⟩

/-- After 2^24 milliseconds the clock on the wire starts again. -/
theorem karaokeClock_runsBackwards :
    ∃ final,
      run Station.act .start (playing 16777215 ++ playing 0) = .ok final ∧
      EveryStep Station.act Station.Assumed .start
        (playing 16777215 ++ playing 0) ∧
      final.generator.plain.map (fun d => decodedTimestamp d.frame) =
        [.ok 16777215, .ok 999] ∧
      ¬ ClockFaithful final.generator := by
  have assumed : EveryStep Station.act Station.Assumed .start
      (playing 16777215 ++ playing 0) := by
    decide +kernel
  have ran : (run Station.act .start
      (playing 16777215 ++ playing 0)).map (fun s =>
        (s.generator.plain.map fun d => decodedTimestamp d.frame,
          (s.generator.parsed.take s.generator.plain.length).map fun f =>
            f.timestamp.toUInt32)) =
      .ok ([.ok 16777215, .ok 999], [16777215, 16778215]) := by
    decide +kernel
  obtain ⟨final, reached, shown⟩ := map_ok.mp ran
  rw [Prod.mk.injEq] at shown
  refine ⟨final, reached, assumed, shown.1, ?_⟩
  intro faithful
  have equal := faithful.decoded
  have passed : ((final.generator.parsed.take
      final.generator.plain.length).map fun f =>
        (.ok f.timestamp.toUInt32 : Except ArrayFailure UInt32)) =
      [.ok 16777215, .ok 16778215] := by
    have both := congrArg
      (List.map (Except.ok : UInt32 → Except ArrayFailure UInt32)) shown.2
    rw [List.map_map] at both
    exact both
  rw [shown.1, passed] at equal
  exact absurd equal (by decide)

end Karaoke

end GroupVoip
