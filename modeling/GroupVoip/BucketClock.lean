import GroupVoip.VideoScheduler

/-!
# The clock of the video buckets

Once the output has started, the clock moves by whole frame intervals, never
beyond the audio time, and every move is a video instant.
-/

namespace GroupVoip

open Library.Runs

variable {V A : Type}

namespace Streams

/-! ## One question -/

theorem truncInt_le {x : ℚ} (n : ℕ) (positive : 1 ≤ n) :
    (n : ℤ) ≤ truncInt x ↔ (n : ℚ) ≤ x := by
  rw [truncInt]
  by_cases forwards : 0 ≤ x
  · rw [if_pos forwards, Int.le_floor]
    push_cast
    rfl
  · rw [if_neg forwards]
    have ceiling : ⌈x⌉ ≤ 0 := Int.ceil_le.mpr (by push_cast; linarith)
    have above : (1 : ℚ) ≤ n := by exact_mod_cast positive
    constructor
    · intro le
      omega
    · intro le
      linarith

/-- The audio bucket has reached the next bucket as soon as the audio time
has. -/
theorem nextBucket_le_audioBucket_iff {p : Streams V A}
    {audioTimestamp : UInt32} :
    p.nextBucketTimestamp ≤ p.audioBucketTimestamp audioTimestamp ↔
      p.nextBucketTimestamp ≤ audioTimestamp.toNat := by
  constructor
  · intro reached
    exact reached.trans (audioBucket_le reached)
  · intro reached
    have positive := frameInterval_pos
    rw [nextBucketTimestamp] at reached
    have enough : (1 : ℚ) ≤
        (audioTimestamp.toNat - p.lastBucketTimestamp) / frameInterval := by
      rw [le_div_iff₀ positive]
      linarith
    have whole := (truncInt_le 1 le_rfl).mpr (by exact_mod_cast enough)
    have scaled : frameInterval * 1 ≤ frameInterval *
        (truncInt ((audioTimestamp.toNat - p.lastBucketTimestamp) /
          frameInterval) : ℤ) := by
      apply mul_le_mul_of_nonneg_left _ positive.le
      exact_mod_cast whole
    rw [nextBucketTimestamp, audioBucketTimestamp]
    linarith

/-- The answer to a question for the next video instant and the clock
afterwards. -/
def FollowsClock (last : ℚ) (audioTimestamp : UInt32) :
    Option UInt32 → ℚ → Prop
  | none, after => after = last
  | some videoTimestamp, after =>
      (∃ k : ℕ, 1 ≤ k ∧ after = last + k * (100 / 3)) ∧
        (videoTimestamp.toNat : ℤ) = ⌊after⌋ ∧ videoTimestamp ≤ audioTimestamp

theorem frameInterval_eq : frameInterval = 100 / 3 := by
  norm_num [frameInterval]

theorem toNat_truncU32_of_le {time : ℚ} {audioTimestamp : UInt32}
    (le : time ≤ audioTimestamp.toNat) :
    (truncU32 time).toNat = ⌊time⌋₊ := by
  have bound : ((audioTimestamp.toNat : ℕ) : ℚ) < 2 ^ 32 := by
    exact_mod_cast audioTimestamp.toNat_lt
  exact toNat_truncU32 (le.trans_lt bound)

theorem truncU32_le {time : ℚ} {audioTimestamp : UInt32}
    (le : time ≤ audioTimestamp.toNat) :
    truncU32 time ≤ audioTimestamp := by
  rw [UInt32.le_iff_toNat_le, toNat_truncU32_of_le le]
  exact Nat.floor_le_of_le le

/-- The time of an instant is the clock, rounded down, and not beyond the
audio time. -/
theorem truncU32_followed {time : ℚ} {audioTimestamp : UInt32}
    (nonneg : 0 ≤ time) (le : time ≤ audioTimestamp.toNat) :
    ((truncU32 time).toNat : ℤ) = ⌊time⌋ ∧
      truncU32 time ≤ audioTimestamp := by
  refine ⟨?_, truncU32_le le⟩
  rw [toNat_truncU32_of_le le, Int.natCast_floor_eq_floor nonneg]

theorem audioBucket_steps {p : Streams V A} {audioTimestamp : UInt32}
    (reached :
      p.nextBucketTimestamp ≤ p.audioBucketTimestamp audioTimestamp) :
    ∃ k : ℕ, 1 ≤ k ∧ p.audioBucketTimestamp audioTimestamp =
      p.lastBucketTimestamp + k * (100 / 3) := by
  have positive := frameInterval_pos
  simp only [nextBucketTimestamp, audioBucketTimestamp] at reached ⊢
  generalize truncInt
    ((audioTimestamp.toNat - p.lastBucketTimestamp) / frameInterval) = steps
    at *
  have scaled : frameInterval * 1 ≤ frameInterval * steps := by linarith
  have enough : (1 : ℤ) ≤ steps := by
    exact_mod_cast le_of_mul_le_mul_left scaled positive
  obtain ⟨k, isK⟩ := Int.eq_ofNat_of_zero_le (show 0 ≤ steps by omega)
  refine ⟨k, by omega, ?_⟩
  rw [isK, frameInterval_eq]
  push_cast
  ring

/-- A decision once the output has started: nothing, or a move of the clock by
whole frame intervals up to the audio time. -/
theorem nextBucket_moves {p p' : Streams V A}
    {audioTimestamp frameTimestamp : UInt32} {ready : Option UInt32}
    (decided : p.nextBucket audioTimestamp frameTimestamp =
      .ok (ready, p')) :
    match ready with
    | none => p' = p
    | some videoTimestamp =>
        (∃ k : ℕ, 1 ≤ k ∧ p'.lastBucketTimestamp =
            p.lastBucketTimestamp + k * (100 / 3)) ∧
          p'.lastBucketTimestamp ≤ audioTimestamp.toNat ∧
          videoTimestamp = truncU32 p'.lastBucketTimestamp := by
  rw [nextBucket] at decided
  split at decided
  · split at decided
    · rename_i reached
      cases decided
      refine ⟨⟨1, le_rfl, ?_⟩, nextBucket_le_audioBucket_iff.mp reached, rfl⟩
      rw [← frameInterval_eq, nextBucketTimestamp]
      push_cast
      ring
    · cases decided
      rfl
  · obtain ⟨_, _, checked⟩ := bind_ok.mp decided
    obtain ⟨_, isAhead, answered⟩ := bind_ok.mp checked
    have ahead := of_decide_eq_true (assertThat_ok.mp isAhead)
    cases answered
    exact ⟨audioBucket_steps ahead.le, audioBucket_le ahead.le, rfl⟩

theorem isNextVideoStreamReady_moves {p p' : Streams V A}
    {audioTimestamp videoTimestamp : UInt32} (started : p.hasStarted = true)
    (answered : p.isNextVideoStreamReady audioTimestamp =
      .ok (some videoTimestamp, p')) :
    (∃ k : ℕ, 1 ≤ k ∧ p'.lastBucketTimestamp =
        p.lastBucketTimestamp + k * (100 / 3)) ∧
      p'.lastBucketTimestamp ≤ audioTimestamp.toNat ∧
      videoTimestamp = truncU32 p'.lastBucketTimestamp := by
  rw [isNextVideoStreamReady, if_pos started] at answered
  split at answered
  · exact nextBucket_moves answered
  · cases answered

theorem isNextVideoStreamReady_waits {p p' : Streams V A}
    {audioTimestamp : UInt32} (started : p.hasStarted = true)
    (answered : p.isNextVideoStreamReady audioTimestamp =
      .ok (none, p')) : p' = p := by
  rw [isNextVideoStreamReady, if_pos started] at answered
  split at answered
  · exact nextBucket_moves answered
  · cases answered
    rfl

theorem isNextVideoStreamReady_followsClock {p p' : Streams V A}
    {audioTimestamp : UInt32} {ready : Option UInt32}
    (started : p.hasStarted = true) (nonneg : 0 ≤ p.lastBucketTimestamp)
    (answered : p.isNextVideoStreamReady audioTimestamp = .ok (ready, p')) :
    FollowsClock p.lastBucketTimestamp audioTimestamp ready
      p'.lastBucketTimestamp := by
  cases ready with
  | none =>
      rw [isNextVideoStreamReady_waits started answered]
      rfl
  | some videoTimestamp =>
      obtain ⟨moved, le, isTime⟩ :=
        isNextVideoStreamReady_moves started answered
      have later : 0 ≤ p'.lastBucketTimestamp := by
        obtain ⟨k, -, isLater⟩ := moved
        rw [isLater]
        positivity
      rw [isTime]
      exact ⟨moved, truncU32_followed later le⟩

theorem audioBucket_nonneg {p : Streams V A} (audioTimestamp : UInt32)
    (nonneg : 0 ≤ p.lastBucketTimestamp) :
    0 ≤ p.audioBucketTimestamp audioTimestamp := by
  have positive := frameInterval_pos
  have audio : (0 : ℚ) ≤ (audioTimestamp.toNat : ℕ) := Nat.cast_nonneg _
  rw [audioBucketTimestamp]
  set quotient : ℚ :=
    (audioTimestamp.toNat - p.lastBucketTimestamp) / frameInterval
    with quotientValue
  have product : frameInterval * quotient =
      audioTimestamp.toNat - p.lastBucketTimestamp := by
    rw [quotientValue]
    field_simp
  rw [truncInt]
  split
  · rename_i forwards
    have whole : (0 : ℚ) ≤ (⌊quotient⌋ : ℤ) := by
      exact_mod_cast Int.floor_nonneg.mpr forwards
    have scaled := mul_nonneg positive.le whole
    linarith
  · have scaled :=
      mul_le_mul_of_nonneg_left (Int.le_ceil quotient) positive.le
    linarith

theorem isNextVideoStreamReady_hasStarted {p p' : Streams V A}
    {audioTimestamp : UInt32} {ready : Option UInt32}
    (started : p.hasStarted = true)
    (answered : p.isNextVideoStreamReady audioTimestamp = .ok (ready, p')) :
    p'.hasStarted = true := by
  rw [isNextVideoStreamReady, if_pos started] at answered
  split at answered
  · rw [nextBucket_ok answered]
    exact started
  · cases answered
    exact started

/-- A clock that is not negative stays so. -/
theorem isNextVideoStreamReady_nonneg {p p' : Streams V A}
    {audioTimestamp : UInt32} {ready : Option UInt32}
    (nonneg : 0 ≤ p.lastBucketTimestamp)
    (answered : p.isNextVideoStreamReady audioTimestamp = .ok (ready, p')) :
    0 ≤ p'.lastBucketTimestamp := by
  by_cases started : p.hasStarted = true
  · cases ready with
    | none =>
        rw [isNextVideoStreamReady_waits started answered]
        exact nonneg
    | some videoTimestamp =>
        obtain ⟨⟨k, -, moved⟩, -⟩ :=
          isNextVideoStreamReady_moves started answered
        rw [moved]
        positivity
  · rw [isNextVideoStreamReady, if_neg started, firstBucket] at answered
    split at answered
    · cases answered
      exact Nat.cast_nonneg _
    · split at answered
      · cases answered
        exact audioBucket_nonneg audioTimestamp nonneg
      · cases answered
        exact nonneg

end Streams

/-! ## Questions in a row -/

/-- The queues have changed, the clock has not. -/
def Streams.withQueues (p : Streams V A) (stream : Slot → Stream V A) :
    Streams V A :=
  { p with stream := stream }

@[simp]
theorem Streams.withQueues_lastBucketTimestamp (p : Streams V A)
    (stream : Slot → Stream V A) :
    (p.withQueues stream).lastBucketTimestamp = p.lastBucketTimestamp :=
  rfl

/-- A question finds the queues as they are by then. -/
structure VideoQuestion (V A : Type) where
  stream : Slot → Stream V A
  audioTimestamp : UInt32

/-- The streams and the answers so far. -/
structure Asked (V A : Type) where
  streams : Streams V A
  answers : List (Option UInt32) := []

namespace Asked

def start (streamSource : Slot → StreamSource) : Asked V A where
  streams := Streams.start streamSource

def ask (s : Asked V A) (q : VideoQuestion V A) :
    Except Abort (Asked V A) := do
  let (answer, streams) ←
    (s.streams.withQueues q.stream).isNextVideoStreamReady q.audioTimestamp
  return { streams := streams, answers := s.answers ++ [answer] }

theorem ask_ok {s next : Asked V A} {q : VideoQuestion V A}
    (asked : s.ask q = .ok next) :
    ∃ answer, next.answers = s.answers ++ [answer] ∧
      (s.streams.withQueues q.stream).isNextVideoStreamReady
        q.audioTimestamp = .ok (answer, next.streams) := by
  obtain ⟨⟨answer, streams⟩, answered, isNext⟩ := bind_ok.mp asked
  cases isNext
  exact ⟨answer, rfl, answered⟩

theorem ask_nonneg {s next : Asked V A} {q : VideoQuestion V A}
    (nonneg : 0 ≤ s.streams.lastBucketTimestamp)
    (asked : s.ask q = .ok next) : 0 ≤ next.streams.lastBucketTimestamp := by
  obtain ⟨answer, -, answered⟩ := ask_ok asked
  rw [← Streams.withQueues_lastBucketTimestamp s.streams q.stream] at nonneg
  exact Streams.isNextVideoStreamReady_nonneg nonneg answered

theorem ask_followsClock {s next : Asked V A} {q : VideoQuestion V A}
    (started : s.streams.hasStarted = true)
    (nonneg : 0 ≤ s.streams.lastBucketTimestamp)
    (asked : s.ask q = .ok next) :
    next.streams.hasStarted = true ∧
      ∃ answer, next.answers = s.answers ++ [answer] ∧
        Streams.FollowsClock s.streams.lastBucketTimestamp q.audioTimestamp
          answer next.streams.lastBucketTimestamp := by
  obtain ⟨answer, isAnswer, answered⟩ := ask_ok asked
  have isStarted : (s.streams.withQueues q.stream).hasStarted = true := started
  rw [← Streams.withQueues_lastBucketTimestamp s.streams q.stream] at nonneg
  have followed :=
    Streams.isNextVideoStreamReady_followsClock isStarted nonneg answered
  exact ⟨Streams.isNextVideoStreamReady_hasStarted isStarted answered, answer,
    isAnswer, followed⟩

/-- The clock of `next` after the questions since `s`. -/
structure Clocked (s next : Asked V A) : Prop where
  started : next.streams.hasStarted = true
  nonneg : 0 ≤ next.streams.lastBucketTimestamp
  onGrid : ∃ n : ℕ, next.streams.lastBucketTimestamp =
    s.streams.lastBucketTimestamp + n * (100 / 3)
  times : ∃ answers, next.answers = s.answers ++ answers ∧
    (answers.filterMap id).Pairwise (· < ·) ∧
    ∀ videoTimestamp ∈ answers.filterMap id,
      ⌊s.streams.lastBucketTimestamp⌋ < videoTimestamp.toNat ∧
        (videoTimestamp.toNat : ℤ) ≤ ⌊next.streams.lastBucketTimestamp⌋

theorem Clocked.ask {s mid next : Asked V A} {q : VideoQuestion V A}
    (clocked : Clocked s mid) (asked : mid.ask q = .ok next) :
    Clocked s next := by
  obtain ⟨started, answer, isAnswer, followed⟩ :=
    ask_followsClock clocked.started clocked.nonneg asked
  have nonneg := ask_nonneg clocked.nonneg asked
  obtain ⟨n, onGrid⟩ := clocked.onGrid
  obtain ⟨answers, isAnswers, increasing, within⟩ := clocked.times
  cases answer with
  | none =>
      have same : next.streams.lastBucketTimestamp =
          mid.streams.lastBucketTimestamp := followed
      refine ⟨started, nonneg, ⟨n, ?_⟩,
        answers ++ [none], ?_, ?_, ?_⟩
      · rw [same, onGrid]
      · rw [isAnswer, isAnswers, List.append_assoc]
      · rw [List.filterMap_append]
        simpa using increasing
      · rw [List.filterMap_append, same]
        simpa using within
  | some videoTimestamp =>
      obtain ⟨⟨k, atLeastOne, moved⟩, isFloor, -⟩ := followed
      have later : ⌊mid.streams.lastBucketTimestamp⌋ <
          (videoTimestamp.toNat : ℤ) := by
        have steps : (1 : ℚ) ≤ k := by exact_mod_cast atLeastOne
        rw [isFloor, Int.lt_iff_add_one_le, Int.le_floor]
        have below := Int.floor_le mid.streams.lastBucketTimestamp
        rw [moved]
        push_cast
        linarith
      have grown : ⌊s.streams.lastBucketTimestamp⌋ ≤
          ⌊mid.streams.lastBucketTimestamp⌋ := by
        apply Int.floor_le_floor
        rw [onGrid]
        have steps : (0 : ℚ) ≤ n := Nat.cast_nonneg n
        linarith
      refine ⟨started, nonneg, ⟨n + k, ?_⟩,
        answers ++ [some videoTimestamp], ?_, ?_, ?_⟩
      · rw [moved, onGrid]
        push_cast
        ring
      · rw [isAnswer, isAnswers, List.append_assoc]
      · rw [List.filterMap_append, List.pairwise_append]
        refine ⟨increasing, List.pairwise_singleton _ _, ?_⟩
        intro earlier isEarlier time isTime
        rw [List.mem_singleton.mp isTime, UInt32.lt_iff_toNat_lt]
        have before := (within earlier isEarlier).2
        omega
      · intro time isTime
        rw [List.filterMap_append] at isTime
        rcases List.mem_append.mp isTime with isEarlier | isNew
        · obtain ⟨first, before⟩ := within time isEarlier
          exact ⟨first, by omega⟩
        · rw [List.mem_singleton.mp isNew]
          exact ⟨by omega, isFloor.le⟩

end Asked

/-- Once the output has started, every question leaves the clock alone or
moves it by whole frame intervals to the time of the answer, the clock stays
on its grid, and the times that are answered increase. -/
theorem bucketClock_onGrid {streamSource : Slot → StreamSource}
    {before after : List (VideoQuestion V A)} {s final : Asked V A}
    (reached : run Asked.ask (Asked.start streamSource) before = .ok s)
    (started : s.streams.hasStarted = true)
    (continued : run Asked.ask s after = .ok final) :
    (∀ q next, s.ask q = .ok next → ∃ answer,
      next.answers = s.answers ++ [answer] ∧
        Streams.FollowsClock s.streams.lastBucketTimestamp q.audioTimestamp
          answer next.streams.lastBucketTimestamp) ∧
    (∃ n : ℕ, final.streams.lastBucketTimestamp =
      s.streams.lastBucketTimestamp + n * (100 / 3)) ∧
    ∃ answers, final.answers = s.answers ++ answers ∧
      (answers.filterMap id).Pairwise (· < ·) ∧
      ∀ videoTimestamp ∈ answers.filterMap id,
        ⌊s.streams.lastBucketTimestamp⌋ < videoTimestamp.toNat := by
  have nonneg : 0 ≤ s.streams.lastBucketTimestamp := by
    apply run_invariant
      (fun t : Asked V A => 0 ≤ t.streams.lastBucketTimestamp) ?_ ?_ reached
    · intro t q next nonneg asked
      exact Asked.ask_nonneg nonneg asked
    · exact le_rfl
  have clocked : Asked.Clocked s final := by
    apply run_invariant (Asked.Clocked s) ?_ ?_ continued
    · intro mid q next clocked asked
      exact clocked.ask asked
    · refine ⟨started, nonneg, ⟨0, by simp⟩, [], by simp, by simp, by simp⟩
  refine ⟨?_, clocked.onGrid, ?_⟩
  · intro q next asked
    exact (Asked.ask_followsClock started nonneg asked).2
  · obtain ⟨answers, isAnswers, increasing, within⟩ := clocked.times
    exact ⟨answers, isAnswers, increasing,
      fun time isTime => (within time isTime).1⟩

/-- One started queue with pictures at these times. -/
def picturesAt (times : List UInt32) (i : Slot) : Stream Unit Unit where
  streamSource := .kDesktopStreamSource
  videoStreamStatus :=
    if i = 0 then .kStreamOnlineStarted else .kStreamOffline
  videoQueue := if i = 0 then times.map fun pts => { pts := pts } else []

/-- The output has started at 40 ms; audio is behind the next bucket, reaches
it, is left without a picture and then finds one beyond the next bucket. -/
theorem bucketClock_onGrid_example :
    ∃ s final : Asked Unit Unit,
      run Asked.ask (Asked.start fun _ => .kDesktopStreamSource)
        [⟨picturesAt [40], 40⟩] = .ok s ∧
      run Asked.ask s
        [⟨picturesAt [60], 60⟩, ⟨picturesAt [60], 75⟩, ⟨picturesAt [], 120⟩,
          ⟨picturesAt [150], 160⟩] = .ok final ∧
      (∃ n : ℕ, final.streams.lastBucketTimestamp =
        s.streams.lastBucketTimestamp + n * (100 / 3)) := by
  have succeeds :
      (run Asked.ask (Asked.start fun _ => .kDesktopStreamSource)
        [⟨picturesAt [40], 40⟩]).map (fun s => s.streams.hasStarted) =
        .ok true := by
    decide +kernel
  obtain ⟨s, reached, started⟩ := map_ok.mp succeeds
  have continues :
      (run Asked.ask (Asked.start fun _ => .kDesktopStreamSource)
        ([⟨picturesAt [40], 40⟩] ++
          [⟨picturesAt [60], 60⟩, ⟨picturesAt [60], 75⟩,
            ⟨picturesAt [], 120⟩, ⟨picturesAt [150], 160⟩])).isOk = true := by
    decide +kernel
  obtain ⟨final, whole⟩ := exists_ok continues
  obtain ⟨mid, first, continued⟩ := run_append_ok.mp whole
  rw [reached] at first
  cases first
  exact ⟨s, final, reached, continued,
    (bucketClock_onGrid reached started continued).2.1⟩

end GroupVoip
