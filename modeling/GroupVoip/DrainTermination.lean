import GroupVoip.MixEncoders
import GroupVoip.VideoReadiness
import Mathlib.Algebra.BigOperators.Fin
import Mathlib.Algebra.Order.BigOperators.Group.Finset
import Mathlib.Data.Prod.Lex

/-!
# The drain loop ends

An audio instant takes a frame of every started queue.  A video instant leaves
them alone: it starts the output, takes a header, or moves the clock of the
buckets towards the audio time.
-/

namespace GroupVoip

open Library.Runs

variable {V A β : Type}

namespace Streams

/-! ## The measure -/

def queuedAudio (p : Streams V A) : ℕ :=
  ∑ i, if (p.stream i).audioStarted then (p.stream i).audioQueue.length else 0

def queuedVideo (p : Streams V A) : ℕ :=
  ∑ i, (p.stream i).videoQueue.length

/-- The frame intervals between the clock and the next audio time. -/
def bucketsLeft (p : Streams V A) : ℕ :=
  match p.isNextAudioStreamReady with
  | some audioPts =>
      ⌊(audioPts.toNat - p.lastBucketTimestamp) / frameInterval⌋₊
  | none => 0

def notStarted (p : Streams V A) : ℕ :=
  if p.hasStarted then 0 else 1

/-- What every output makes smaller, the first component first. -/
def drainMeasure (p : Streams V A) : ℕ ×ₗ ℕ ×ₗ ℕ ×ₗ ℕ :=
  toLex (p.queuedAudio,
    toLex (p.notStarted, toLex (p.queuedVideo, p.bucketsLeft)))

theorem drainMeasure_lt_iff {p p' : Streams V A} :
    p'.drainMeasure < p.drainMeasure ↔
      p'.queuedAudio < p.queuedAudio ∨
        p'.queuedAudio = p.queuedAudio ∧ (p'.notStarted < p.notStarted ∨
          p'.notStarted = p.notStarted ∧ (p'.queuedVideo < p.queuedVideo ∨
            p'.queuedVideo = p.queuedVideo ∧
              p'.bucketsLeft < p.bucketsLeft)) := by
  rw [drainMeasure, drainMeasure, Prod.Lex.toLex_lt_toLex]
  dsimp only
  rw [Prod.Lex.toLex_lt_toLex]
  dsimp only
  rw [Prod.Lex.toLex_lt_toLex]

/-! ## Streams with the same audio -/

/-- The audio queues of two states are the same. -/
def SameAudio (p p' : Streams V A) : Prop :=
  ∀ i, (p'.stream i).audioStarted = (p.stream i).audioStarted ∧
    (p'.stream i).audioQueue = (p.stream i).audioQueue

theorem SameAudio.scanAudio {p p' : Streams V A} (same : p.SameAudio p')
    (indexes : List Slot) :
    ∀ (audioTimestamp : UInt32) (totalStreams : Nat),
      p'.scanAudio indexes audioTimestamp totalStreams =
        p.scanAudio indexes audioTimestamp totalStreams := by
  induction indexes with
  | nil =>
      intro audioTimestamp totalStreams
      rfl
  | cons i rest inductionHypothesis =>
      intro audioTimestamp totalStreams
      obtain ⟨sameStatus, sameQueue⟩ := same i
      rw [Streams.scanAudio, Streams.scanAudio, sameStatus, sameQueue]
      simp only [inductionHypothesis]

theorem SameAudio.isNextAudioStreamReady {p p' : Streams V A}
    (same : p.SameAudio p') :
    p'.isNextAudioStreamReady = p.isNextAudioStreamReady := by
  rw [Streams.isNextAudioStreamReady, Streams.isNextAudioStreamReady,
    same.scanAudio]

theorem SameAudio.queuedAudio {p p' : Streams V A} (same : p.SameAudio p') :
    p'.queuedAudio = p.queuedAudio := by
  rw [Streams.queuedAudio, Streams.queuedAudio]
  apply Finset.sum_congr rfl
  intro i _
  rw [(same i).1, (same i).2]

/-- A move of the clock by whole frame intervals leaves fewer of them. -/
theorem bucketsLeft_lt {p p' : Streams V A} {audioPts : UInt32}
    (same : p.SameAudio p') (ready : p.isNextAudioStreamReady = some audioPts)
    (moved : ∃ k : ℕ, 1 ≤ k ∧ p'.lastBucketTimestamp =
      p.lastBucketTimestamp + k * (100 / 3))
    (le : p'.lastBucketTimestamp ≤ audioPts.toNat) :
    p'.bucketsLeft < p.bucketsLeft := by
  obtain ⟨k, atLeastOne, isMoved⟩ := moved
  have positive := frameInterval_pos
  rw [bucketsLeft, bucketsLeft, same.isNextAudioStreamReady, ready]
  dsimp only
  have rest : (audioPts.toNat - p.lastBucketTimestamp) / frameInterval =
      (audioPts.toNat - p'.lastBucketTimestamp) / frameInterval + k := by
    rw [isMoved, ← frameInterval_eq]
    field_simp
    ring
  have nonneg :
      0 ≤ (audioPts.toNat - p'.lastBucketTimestamp) / frameInterval :=
    div_nonneg (sub_nonneg.mpr le) positive.le
  rw [rest, Nat.floor_add_natCast nonneg]
  omega

/-! ## What an instant takes -/

theorem nextInstant_video {p p' : Streams V A} {videoPts : UInt32}
    (decided : p.nextInstant = .ok (.video videoPts, p')) :
    ∃ audioPts, p.isNextAudioStreamReady = some audioPts ∧
      p.isNextVideoStreamReady audioPts = .ok (some videoPts, p') := by
  cases ready : p.isNextAudioStreamReady with
  | none =>
      simp only [nextInstant, ready] at decided
      cases decided
  | some audioPts =>
      simp only [nextInstant, ready] at decided
      obtain ⟨⟨video, streams⟩, answered, chosen⟩ := bind_ok.mp decided
      cases video with
      | none => cases chosen
      | some answer =>
          obtain ⟨isInstant, isStreams⟩ := Prod.mk.inj (Except.ok.inj chosen)
          split at isInstant
          · cases isInstant
          · cases isInstant
            cases isStreams
            exact ⟨audioPts, rfl, answered⟩

theorem mem_fronts {p : Streams V A} {v : VideoRawData} :
    v ∈ p.fronts ↔ ∃ i, p.startedFront i = some v := by
  simp [fronts, List.mem_filterMap, mem_slots]

/-- Before the output has started, an instant starts it or has the time of a
header at a front. -/
theorem firstBucket_cases {p p' : Streams V A} {audioPts videoPts : UInt32}
    (notYet : p.hasStarted = false)
    (answered : p.isNextVideoStreamReady audioPts =
      .ok (some videoPts, p')) :
    p'.hasStarted = true ∨
      (p'.hasStarted = false ∧
        ∃ i v, p.startedFront i = some v ∧ v.pts = videoPts) := by
  rw [isNextVideoStreamReady, if_neg (by simp [notYet]), scanFronts_eq,
    notYet] at answered
  obtain ⟨any, header, last⟩ := FrontScan.foldl_front_flags false
    (p.nextLimitTimestamp audioPts) p.fronts
  generalize p.nextLimitTimestamp audioPts = limit at *
  generalize p.fronts.foldl (FrontScan.front false limit) {} = f at *
  rw [firstBucket] at answered
  split at answered
  · cases answered
    exact .inl rfl
  · rename_i noPicture
    split at answered
    · rename_i hasHeader
      cases answered
      refine .inr ⟨notYet, ?_⟩
      have onlyHeaders : (p.fronts.all fun v => v.sp = .kSpsPps) = true := by
        rw [any] at noPicture
        simpa using noPicture
      rw [last onlyHeaders]
      rw [header] at hasHeader
      rcases List.eq_nil_or_concat p.fronts with isEmpty | ⟨before, v, isLast⟩
      · rw [isEmpty] at hasHeader
        cases hasHeader
      · have isFront : v ∈ p.fronts := by
          rw [isLast]
          simp
        obtain ⟨i, isFrontOf⟩ := mem_fronts.mp isFront
        refine ⟨i, v, isFrontOf, ?_⟩
        rw [isLast]
        simp
    · cases answered

end Streams

namespace MixCoder

/-- An audio instant takes a frame of some started queue. -/
theorem AudioTaken.queuedAudio_lt {m m' : MixCoder V A β} {out : Output}
    (taken : AudioTaken m m' out) (ready : m.streams.AudioReady) :
    m'.streams.queuedAudio < m.streams.queuedAudio := by
  rw [Streams.queuedAudio, Streams.queuedAudio]
  have lengths : ∀ i, (m.streams.stream i).audioStarted = true →
      (m'.streams.stream i).audioStarted = true ∧
        (m.streams.stream i).audioQueue.length =
          (m'.streams.stream i).audioQueue.length + 1 := by
    intro i started
    obtain ⟨a, rest, queued, -, left, -⟩ := taken.started started
    rw [left, queued]
    exact ⟨started, rfl⟩
  have others : ∀ i, (m.streams.stream i).audioStarted = false →
      m'.streams.stream i = m.streams.stream i := by
    intro i notStarted
    exact (taken.notStarted notStarted).2.1
  obtain ⟨⟨first, started⟩, -⟩ := ready
  apply Finset.sum_lt_sum
  · intro i _
    cases startedToo : (m.streams.stream i).audioStarted with
    | true =>
        obtain ⟨stays, isLonger⟩ := lengths i startedToo
        rw [stays, isLonger]
        simp
    | false => rw [others i startedToo, startedToo]
  · refine ⟨first, Finset.mem_univ _, ?_⟩
    obtain ⟨stays, isLonger⟩ := lengths first started
    rw [stays, started, isLonger]
    simp

theorem videoOutput_clock {backend : Backend β} {m m' : MixCoder V A β}
    {videoPts : UInt32} {out : Output}
    (taken : m.videoOutput backend videoPts = (m', out)) :
    m'.streams.hasStarted = m.streams.hasStarted ∧
      m'.streams.lastBucketTimestamp = m.streams.lastBucketTimestamp := by
  unfold videoOutput at taken
  generalize Streams.slots.foldl (VideoLoop.turn videoPts) _ = l at taken
  cases taken
  exact ⟨rfl, rfl⟩

section Video

variable {m m' : MixCoder V A β} {videoPts : UInt32} {out : Output}

theorem VideoTaken.videoQueue (taken : VideoTaken m m' videoPts out)
    (i : Slot) :
    (m'.streams.stream i).videoQueue =
      if (m.streams.stream i).videoStarted then
        (m.streams.stream i).left videoPts
      else (m.streams.stream i).videoQueue := by
  rw [(taken.shown i).stream]
  split <;> rfl

theorem VideoTaken.queuedVideo_le (taken : VideoTaken m m' videoPts out) :
    m'.streams.queuedVideo ≤ m.streams.queuedVideo := by
  apply Finset.sum_le_sum
  intro i _
  rw [taken.videoQueue]
  split
  · exact (List.dropWhile_sublist _).length_le
  · exact le_rfl

/-- A front at the time of the instant is taken. -/
theorem VideoTaken.queuedVideo_lt (taken : VideoTaken m m' videoPts out)
    {i : Slot} {v : VideoRawData} (isFront : m.streams.startedFront i = some v)
    (isTime : v.pts = videoPts) :
    m'.streams.queuedVideo < m.streams.queuedVideo := by
  apply Finset.sum_lt_sum
  · intro j _
    rw [taken.videoQueue]
    split
    · exact (List.dropWhile_sublist _).length_le
    · exact le_rfl
  · refine ⟨i, Finset.mem_univ _, ?_⟩
    rw [Streams.startedFront] at isFront
    split at isFront
    · rename_i started
      obtain ⟨rest, queued⟩ := List.head?_eq_some_iff.mp isFront
      rw [taken.videoQueue, if_pos started, Stream.left, queued,
        List.dropWhile_cons_of_pos (by simp [isTime]), List.length_cons]
      exact Nat.lt_succ_of_le (List.dropWhile_sublist _).length_le
    · cases isFront

end Video

/-! ## The drain loop -/

/-- One turn of the drain loop. -/
def DrainTurn (backend : Backend β) (m m' : MixCoder V A β) : Prop :=
  ∃ out, m.getOutput backend = .ok (m', out) ∧ out.resultFlvPacket ≠ none

theorem videoInstant_drainMeasure_lt {backend : Backend β}
    {m m' : MixCoder V A β} {streams : Streams V A} {videoPts : UInt32}
    {out : Output}
    (decided : m.streams.nextInstant = .ok (.video videoPts, streams))
    (carriedOut : (m.setStreams streams).videoOutput backend videoPts =
      (m', out)) :
    m'.streams.drainMeasure < m.streams.drainMeasure := by
  obtain ⟨audioPts, ready, answered⟩ := Streams.nextInstant_video decided
  have taken := videoOutput_taken carriedOut
  obtain ⟨sameStarted, sameClock⟩ := videoOutput_clock carriedOut
  have sameStream := Streams.nextInstant_stream decided
  have same : m.streams.SameAudio m'.streams := by
    intro i
    rw [← sameStream]
    exact taken.audio i
  have notMore : m'.streams.queuedVideo ≤ m.streams.queuedVideo := by
    have fewer := taken.queuedVideo_le
    rw [setStreams_streams, Streams.queuedVideo, Streams.queuedVideo,
      sameStream] at fewer
    exact fewer
  rw [Streams.drainMeasure_lt_iff]
  refine .inr ⟨same.queuedAudio, ?_⟩
  rw [Streams.notStarted, Streams.notStarted, sameStarted, setStreams_streams]
  cases started : m.streams.hasStarted with
  | true =>
      obtain ⟨moved, le, -⟩ :=
        Streams.isNextVideoStreamReady_moves started answered
      have keepsStarted :=
        Streams.isNextVideoStreamReady_hasStarted started answered
      have fewerBuckets : m'.streams.bucketsLeft < m.streams.bucketsLeft := by
        apply Streams.bucketsLeft_lt same ready
        · rw [sameClock, setStreams_streams]
          exact moved
        · rw [sameClock, setStreams_streams]
          exact le
      rw [keepsStarted]
      refine .inr ⟨rfl, ?_⟩
      rcases notMore.lt_or_eq with fewer | sameVideo
      · exact .inl fewer
      · exact .inr ⟨sameVideo, fewerBuckets⟩
  | false =>
      rcases Streams.firstBucket_cases started answered with
        starts | ⟨staysIdle, i, v, isFront, isTime⟩
      · rw [starts]
        exact .inl Nat.zero_lt_one
      · rw [staysIdle]
        refine .inr ⟨rfl, .inl ?_⟩
        have isFrontToo : (m.setStreams streams).streams.startedFront i =
            some v := by
          rw [setStreams_streams, Streams.startedFront, sameStream]
          exact isFront
        have fewer := taken.queuedVideo_lt isFrontToo isTime
        rw [setStreams_streams, Streams.queuedVideo, Streams.queuedVideo,
          sameStream] at fewer
        exact fewer

theorem drainTurn_drainMeasure_lt {backend : Backend β}
    {m m' : MixCoder V A β} (turn : DrainTurn backend m m') :
    m'.streams.drainMeasure < m.streams.drainMeasure := by
  obtain ⟨out, called, hasPacket⟩ := turn
  obtain ⟨instant, streams, decided, carriedOut⟩ := getOutput_ok called
  cases instant with
  | none =>
      rw [carriedOut.2] at hasPacket
      exact absurd rfl hasPacket
  | video videoPts => exact videoInstant_drainMeasure_lt decided carriedOut
  | audio audioPts =>
      obtain ⟨-, isReady⟩ := Streams.nextInstant_ok decided
      obtain ⟨readyPts, ready⟩ := isReady (by simp)
      have sameStream := Streams.nextInstant_stream decided
      have audioReady : (m.setStreams streams).streams.AudioReady := by
        rw [setStreams_streams, ← Streams.isNextAudioStreamReady_isSome]
        have same : m.streams.SameAudio streams := by
          intro i
          rw [sameStream]
          exact ⟨rfl, rfl⟩
        rw [same.isNextAudioStreamReady, ready]
        rfl
      have fewer := (audioOutput_ok carriedOut).1.queuedAudio_lt audioReady
      rw [setStreams_streams, Streams.queuedAudio, Streams.queuedAudio,
        sameStream] at fewer
      exact Streams.drainMeasure_lt_iff.mpr (.inl fewer)

/-- With enough turns the drain loop ends, at a null output or at an
assertion. -/
theorem drain_ends (backend : Backend β) (m : MixCoder V A β) :
    ∃ turns, ∀ m', m.drain backend turns ≠ .ok (m', false) := by
  induction measured : m.streams.drainMeasure using
    WellFoundedLT.induction generalizing m with
  | ind measure inductionHypothesis =>
      cases called : m.getOutput backend with
      | error stopped =>
          refine ⟨1, ?_⟩
          intro m' drained
          rw [drain, called] at drained
          cases drained
      | ok taken =>
          obtain ⟨next, out⟩ := taken
          cases hasPacket : out.resultFlvPacket with
          | none =>
              refine ⟨1, ?_⟩
              intro m' drained
              rw [drain, called] at drained
              simp only [bind, Except.bind, hasPacket] at drained
              cases drained
          | some packet =>
              have turn : DrainTurn backend m next := by
                refine ⟨out, called, ?_⟩
                rw [hasPacket]
                exact Option.some_ne_none packet
              have smaller := drainTurn_drainMeasure_lt turn
              rw [measured] at smaller
              obtain ⟨turns, ends⟩ :=
                inductionHypothesis _ smaller next rfl
              refine ⟨turns + 1, ?_⟩
              intro m' drained
              rw [drain, called] at drained
              simp only [bind, Except.bind, hasPacket] at drained
              exact ends m' drained

end MixCoder

/-- Every output makes the measure smaller, so no drain loop goes on for ever,
whatever mixers and encoders do. -/
theorem drain_terminates (backend : Backend β) :
    (∀ m m' : MixCoder V A β, MixCoder.DrainTurn backend m m' →
      m'.streams.drainMeasure < m.streams.drainMeasure) ∧
    WellFounded (fun m' m : MixCoder V A β =>
      MixCoder.DrainTurn backend m m') ∧
    ∀ m : MixCoder V A β,
      ∃ turns, ∀ m', m.drain backend turns ≠ .ok (m', false) := by
  refine ⟨fun m m' => MixCoder.drainTurn_drainMeasure_lt, ?_,
    MixCoder.drain_ends backend⟩
  apply Subrelation.wf ?_
    (InvImage.wf (fun m : MixCoder V A β => m.streams.drainMeasure)
      wellFounded_lt)
  intro m' m turn
  exact MixCoder.drainTurn_drainMeasure_lt turn

end GroupVoip
