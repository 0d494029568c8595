import GroupVoip.AudioLockStep
import GroupVoip.TagEffects
import Mathlib.Tactic.FieldSimp
import Mathlib.Tactic.Linarith

/-!
# The assertions of the video scheduler

The scheduler never lets a picture beyond the limit into the largest front
time, but it lets every SPS/PPS header in.  So its two assertions fail exactly
when a header beyond the limit is at the front of a started queue, up to the
value that stands for no front at all.
-/

namespace GroupVoip

open Library.Runs

variable {V A β : Type}

namespace Streams

def startedFront (p : Streams V A) (i : Slot) : Option VideoRawData :=
  if (p.stream i).videoStarted then (p.stream i).videoQueue.head? else none

/-- A header at the front of a started queue, with its time. -/
def HeaderAt (p : Streams V A) (i : Slot) (pts : UInt32) : Prop :=
  ∃ v, p.startedFront i = some v ∧ v.sp = .kSpsPps ∧ v.pts = pts

/-- A header beyond the limit that no later slot hides: a header at
`0xffffffff` makes the loop start over. -/
def HeaderBeyond (p : Streams V A) (limit : UInt32) (indexes : List Slot) :
    Prop :=
  ∃ i, i ∈ indexes ∧
    (∃ pts, p.HeaderAt i pts ∧ limit < pts ∧ pts ≠ MAX_U32) ∧
    ∀ j, j ∈ indexes → i < j → ¬ p.HeaderAt j MAX_U32

/-! ## The loop over the fronts -/

def FrontScan.Beyond (limit : UInt32) (f : FrontScan) : Prop :=
  f.frameTimestamp ≠ MAX_U32 ∧ limit < f.frameTimestamp

theorem le_maxU32 (pts : UInt32) : pts ≤ MAX_U32 := by
  rw [UInt32.le_iff_toNat_le]
  have bound := pts.toNat_lt
  have value : MAX_U32.toNat = 4294967295 := by decide
  omega

theorem FrontScan.beyond_record_within {limit pts : UInt32} (f : FrontScan)
    (within : ¬ limit < pts) :
    (f.record pts).Beyond limit ↔ f.Beyond limit := by
  simp only [FrontScan.Beyond, FrontScan.record]
  by_cases first : f.frameTimestamp = MAX_U32
  · rw [if_pos first]
    simp [first, within]
  · rw [if_neg first]
    by_cases larger : pts > f.frameTimestamp
    · have inside : ¬ limit < f.frameTimestamp := by
        intro outside
        exact within (UInt32.lt_trans outside larger)
      rw [if_pos larger]
      simp [within, inside]
    · rw [if_neg larger]

theorem FrontScan.beyond_record_outside {limit pts : UInt32} (f : FrontScan)
    (outside : limit < pts) (notSentinel : pts ≠ MAX_U32) :
    (f.record pts).Beyond limit := by
  simp only [FrontScan.Beyond, FrontScan.record]
  by_cases first : f.frameTimestamp = MAX_U32
  · rw [if_pos first]
    exact ⟨notSentinel, outside⟩
  · rw [if_neg first]
    by_cases larger : pts > f.frameTimestamp
    · rw [if_pos larger]
      exact ⟨notSentinel, outside⟩
    · rw [if_neg larger]
      exact ⟨first, UInt32.lt_of_lt_of_le outside (UInt32.not_lt.mp larger)⟩

/-- Recording the sentinel forgets everything before. -/
theorem FrontScan.not_beyond_record_sentinel {limit : UInt32} (f : FrontScan) :
    ¬ (f.record MAX_U32).Beyond limit := by
  have forgotten : (f.record MAX_U32).frameTimestamp = MAX_U32 := by
    simp only [FrontScan.record]
    by_cases first : f.frameTimestamp = MAX_U32
    · rw [if_pos first]
    · rw [if_neg first]
      by_cases larger : MAX_U32 > f.frameTimestamp
      · rw [if_pos larger]
      · have same : f.frameTimestamp = MAX_U32 :=
          UInt32.le_antisymm (le_maxU32 _) (UInt32.not_lt.mp larger)
        exact absurd same first
  intro beyond
  exact beyond.1 forgotten

theorem scanFront_eq (p : Streams V A) (limit : UInt32) (f : FrontScan)
    (i : Slot) :
    p.scanFront limit f i =
      match p.startedFront i with
      | some v => f.front p.hasStarted limit v
      | none => f := by
  rw [scanFront, startedFront]
  cases (p.stream i).videoStarted with
  | false => rfl
  | true =>
      rcases (p.stream i).videoQueue with _ | ⟨v, rest⟩
      · rfl
      · rfl

theorem beyond_scanFront {p : Streams V A} (started : p.hasStarted = true)
    {limit : UInt32} {f : FrontScan} {i : Slot} :
    (p.scanFront limit f i).Beyond limit ↔
      (∃ pts, p.HeaderAt i pts ∧ limit < pts ∧ pts ≠ MAX_U32) ∨
        (f.Beyond limit ∧ ¬ p.HeaderAt i MAX_U32) := by
  rw [scanFront_eq]
  cases front : p.startedFront i with
  | none =>
      have noHeader : ∀ pts, ¬ p.HeaderAt i pts := by
        rintro pts ⟨v, isFront, _⟩
        rw [front] at isFront
        cases isFront
      simp [noHeader]
  | some v =>
      have headerAt : ∀ pts, p.HeaderAt i pts ↔ v.sp = .kSpsPps ∧ v.pts = pts := by
        intro pts
        simp [HeaderAt, front]
      simp only [headerAt, FrontScan.front]
      by_cases header : v.sp = .kSpsPps
      · rw [if_pos header]
        by_cases sentinel : v.pts = MAX_U32
        · rw [sentinel]
          simp [FrontScan.not_beyond_record_sentinel, header]
        · by_cases outside : limit < v.pts
          · have beyond := FrontScan.beyond_record_outside
              { f with hasSpsPps := true, spsPpsTimestamp := v.pts }
              outside sentinel
            simp [beyond, header, outside, sentinel]
          · rw [FrontScan.beyond_record_within _ outside]
            simp [FrontScan.Beyond, header, outside, sentinel]
      · rw [if_neg header]
        by_cases late : v.pts > limit
        · rw [if_pos (by simp [started, late])]
          simp [FrontScan.Beyond, header]
        · rw [if_neg (by simp [late]), FrontScan.beyond_record_within _ late]
          simp [FrontScan.Beyond, header]

theorem beyond_scanFronts_aux {p : Streams V A} (started : p.hasStarted = true)
    {limit : UInt32} (indexes : List Slot)
    (sorted : indexes.Pairwise (· < ·)) :
    (indexes.foldl (p.scanFront limit) {}).Beyond limit ↔
      p.HeaderBeyond limit indexes := by
  induction indexes using List.reverseRecOn with
  | nil => simp [HeaderBeyond, FrontScan.Beyond]
  | append_singleton front last inductionHypothesis =>
      obtain ⟨frontSorted, _, lower⟩ := List.pairwise_append.mp sorted
      have below : ∀ i, i ∈ front → i < last := fun i member =>
        lower i member last (by simp)
      rw [List.foldl_append, List.foldl_cons, List.foldl_nil,
        beyond_scanFront started, inductionHypothesis frontSorted]
      constructor
      · rintro (here | ⟨⟨i, member, beyond, notHidden⟩, notSentinel⟩)
        · refine ⟨last, by simp, here, ?_⟩
          intro j member later
          rcases List.mem_append.mp member with earlier | same
          · exact absurd later (Fin.lt_asymm (below j earlier))
          · rw [List.mem_singleton.mp same] at later
            exact absurd later (Fin.lt_irrefl last)
        · refine ⟨i, by simp [member], beyond, ?_⟩
          intro j member later
          rcases List.mem_append.mp member with earlier | same
          · exact notHidden j earlier later
          · rw [List.mem_singleton.mp same]
            exact notSentinel
      · rintro ⟨i, member, beyond, notHidden⟩
        rcases List.mem_append.mp member with earlier | same
        · right
          refine ⟨⟨i, earlier, beyond, ?_⟩, ?_⟩
          · intro j member later
            exact notHidden j (by simp [member]) later
          · exact notHidden last (by simp) (below i earlier)
        · left
          rw [List.mem_singleton.mp same] at beyond
          exact beyond

theorem slots_sorted : slots.Pairwise (· < ·) :=
  List.pairwise_lt_finRange _

theorem beyond_scanFronts {p : Streams V A} (started : p.hasStarted = true)
    {limit : UInt32} :
    (p.scanFronts limit).Beyond limit ↔ p.HeaderBeyond limit slots :=
  beyond_scanFronts_aux started slots slots_sorted

/-! ## The bucket clock -/

theorem toNat_truncU32 {x : ℚ} (small : x < 2 ^ 32) :
    (truncU32 x).toNat = ⌊x⌋₊ := by
  have bound : ⌊x⌋₊ < 2 ^ 32 := by
    have cast : x < ((2 ^ 32 : ℕ) : ℚ) := by
      push_cast
      exact small
    exact (Nat.floor_lt' (by norm_num)).mpr cast
  rw [truncU32, UInt32.toNat_ofNat']
  exact Nat.mod_eq_of_lt bound

theorem frameInterval_pos : 0 < frameInterval := by
  norm_num [frameInterval]

/-- An audio bucket that has reached the next bucket does not pass the audio
time. -/
theorem audioBucket_le {p : Streams V A} {audioTimestamp : UInt32}
    (reached :
      p.nextBucketTimestamp ≤ p.audioBucketTimestamp audioTimestamp) :
    p.audioBucketTimestamp audioTimestamp ≤ audioTimestamp.toNat := by
  have positive := frameInterval_pos
  simp only [nextBucketTimestamp, audioBucketTimestamp] at reached ⊢
  set quotient : ℚ :=
    (audioTimestamp.toNat - p.lastBucketTimestamp) / frameInterval
    with quotientValue
  have product :
      frameInterval * quotient = audioTimestamp.toNat - p.lastBucketTimestamp := by
    rw [quotientValue]
    field_simp
  by_cases forwards : 0 ≤ quotient
  · have whole : ((truncInt quotient : ℤ) : ℚ) ≤ quotient := by
      rw [truncInt, if_pos forwards]
      exact Int.floor_le quotient
    have scaled := mul_le_mul_of_nonneg_left whole positive.le
    linarith
  · have notPositive : ((truncInt quotient : ℤ) : ℚ) ≤ 0 := by
      rw [truncInt, if_neg forwards]
      have ceiling : ⌈quotient⌉ ≤ 0 := Int.ceil_le.mpr (by push_cast; linarith)
      exact_mod_cast ceiling
    have scaled := mul_le_mul_of_nonneg_left notPositive positive.le
    linarith

theorem audioBucket_lt {p : Streams V A} {audioTimestamp : UInt32}
    (ahead : p.nextBucketTimestamp < p.audioBucketTimestamp audioTimestamp) :
    p.audioBucketTimestamp audioTimestamp < 2 ^ 32 := by
  have le := audioBucket_le ahead.le
  have bound : ((audioTimestamp.toNat : ℕ) : ℚ) < 2 ^ 32 := by
    exact_mod_cast audioTimestamp.toNat_lt
  linarith

theorem nextLimit_cases (p : Streams V A) (audioTimestamp : UInt32) :
    (p.audioBucketTimestamp audioTimestamp ≤ p.nextBucketTimestamp ∧
        p.nextLimitTimestamp audioTimestamp = truncU32 p.nextBucketTimestamp) ∨
      (p.nextBucketTimestamp < p.audioBucketTimestamp audioTimestamp ∧
        (p.nextLimitTimestamp audioTimestamp).toNat =
          ⌊p.audioBucketTimestamp audioTimestamp⌋₊ ∧
        truncU32 p.nextBucketTimestamp ≤ p.nextLimitTimestamp audioTimestamp) := by
  rcases lt_trichotomy (p.audioBucketTimestamp audioTimestamp)
      p.nextBucketTimestamp with behind | level | ahead
  · left
    refine ⟨behind.le, ?_⟩
    rw [nextLimitTimestamp, if_pos behind]
  · left
    refine ⟨level.le, ?_⟩
    rw [nextLimitTimestamp, if_neg (by rw [level]; exact lt_irrefl _), level]
  · right
    have limit :
        p.nextLimitTimestamp audioTimestamp =
          truncU32 (p.audioBucketTimestamp audioTimestamp) := by
      rw [nextLimitTimestamp, if_neg (not_lt.mpr ahead.le)]
    have small := audioBucket_lt ahead
    refine ⟨ahead, ?_, ?_⟩
    · rw [limit, toNat_truncU32 small]
    · rw [UInt32.le_iff_toNat_le, limit, toNat_truncU32 small,
        toNat_truncU32 (ahead.trans small)]
      exact Nat.floor_mono ahead.le

/-- The decision stops exactly for a front time beyond the limit. -/
theorem nextBucket_stops_iff {p : Streams V A}
    {audioTimestamp frameTimestamp : UInt32} :
    (∃ stopped, p.nextBucket audioTimestamp frameTimestamp = .error stopped) ↔
      p.nextLimitTimestamp audioTimestamp < frameTimestamp := by
  rw [nextBucket]
  rcases nextLimit_cases p audioTimestamp with ⟨behind, limit⟩ | ⟨ahead, limit, le⟩
  · rw [limit]
    by_cases within : frameTimestamp ≤ truncU32 p.nextBucketTimestamp
    · rw [if_pos within]
      have noError : ∀ stopped,
          (if p.audioBucketTimestamp audioTimestamp ≥ p.nextBucketTimestamp then
              (.ok (some (truncU32 p.nextBucketTimestamp),
                { p with lastBucketTimestamp := p.nextBucketTimestamp }) :
                Except Abort (Option UInt32 × Streams V A))
            else .ok (none, p)) ≠ .error stopped := by
        intro stopped
        split
        · simp
        · simp
      simp [noError, UInt32.not_lt.mpr within]
    · have notAhead :
          decide (p.audioBucketTimestamp audioTimestamp >
            p.nextBucketTimestamp) = false :=
        decide_eq_false (not_lt.mpr behind)
      rw [if_neg within, notAhead]
      refine ⟨fun _ => UInt32.not_le.mp within, fun _ => ?_⟩
      cases decide (p.audioBucketTimestamp audioTimestamp ≥
          frameTimestamp.toNat) with
      | false => exact ⟨_, rfl⟩
      | true => exact ⟨_, rfl⟩
  · by_cases within : frameTimestamp ≤ truncU32 p.nextBucketTimestamp
    · have inside : ¬ p.nextLimitTimestamp audioTimestamp < frameTimestamp :=
        UInt32.not_lt.mpr (UInt32.le_trans within le)
      rw [if_pos within, if_pos ahead.le]
      simp [inside]
    · have isAhead :
          decide (p.audioBucketTimestamp audioTimestamp >
            p.nextBucketTimestamp) = true := decide_eq_true ahead
      have nonzero : frameTimestamp.toNat ≠ 0 := by
        have positive := UInt32.lt_iff_toNat_lt.mp (UInt32.not_le.mp within)
        omega
      have reached :
          p.audioBucketTimestamp audioTimestamp ≥ frameTimestamp.toNat ↔
            ¬ p.nextLimitTimestamp audioTimestamp < frameTimestamp := by
        rw [UInt32.lt_iff_toNat_lt, limit, not_lt]
        exact (Nat.le_floor_iff' nonzero).symm
      rw [if_neg within, isAhead]
      by_cases enough :
          p.audioBucketTimestamp audioTimestamp ≥ frameTimestamp.toNat
      · rw [decide_eq_true enough]
        simp [assertThat, reached.mp enough, bind, Except.bind, pure,
          Except.pure]
      · have outside := not_not.mp (mt reached.mpr enough)
        rw [decide_eq_false enough]
        refine ⟨fun _ => outside, fun _ => ⟨_, rfl⟩⟩

/-- The question for the next video instant stops exactly when a header beyond
the limit stands at the front of a started queue. -/
theorem isNextVideoStreamReady_stops_iff {p : Streams V A}
    {audioTimestamp : UInt32} :
    (∃ stopped, p.isNextVideoStreamReady audioTimestamp = .error stopped) ↔
      p.hasStarted = true ∧
        p.HeaderBeyond (p.nextLimitTimestamp audioTimestamp) slots := by
  rw [isNextVideoStreamReady]
  by_cases started : p.hasStarted = true
  · rw [if_pos started, ← beyond_scanFronts started, FrontScan.Beyond]
    by_cases none :
        (p.scanFronts (p.nextLimitTimestamp audioTimestamp)).frameTimestamp =
          MAX_U32
    · rw [if_neg (not_not.mpr none)]
      simp [none]
    · rw [if_pos none, nextBucket_stops_iff]
      simp [none, started]
  · rw [if_neg started]
    simp [started]

/-- A header at the front of a started queue is beyond the limit of the next
video instant. -/
def HeaderBeyondLimit (p : Streams V A) : Prop :=
  p.hasStarted = true ∧
    ∃ audioPts, p.isNextAudioStreamReady = some audioPts ∧
      p.HeaderBeyond (p.nextLimitTimestamp audioPts) slots

theorem nextInstant_stops_iff {p : Streams V A} :
    (∃ stopped, p.nextInstant = .error stopped) ↔ p.HeaderBeyondLimit := by
  cases ready : p.isNextAudioStreamReady with
  | none =>
      have idle : p.nextInstant = .ok (.none, p) := by
        rw [nextInstant, ready]
        rfl
      simp [idle, HeaderBeyondLimit, ready]
  | some audioPts =>
      have asked :
          (∃ stopped, p.isNextVideoStreamReady audioPts = .error stopped) ↔
            p.hasStarted = true ∧
              p.HeaderBeyond (p.nextLimitTimestamp audioPts) slots :=
        isNextVideoStreamReady_stops_iff
      have same :
          (∃ stopped, p.nextInstant = .error stopped) ↔
            ∃ stopped, p.isNextVideoStreamReady audioPts = .error stopped := by
        rw [nextInstant, ready]
        simp only
        cases p.isNextVideoStreamReady audioPts with
        | error stopped => simp [bind, Except.bind]
        | ok answer =>
            rcases answer with ⟨_ | videoPts, asked⟩
            · simp [bind, Except.bind, pure, Except.pure]
            · simp [bind, Except.bind, pure, Except.pure]
      rw [same, asked]
      simp [HeaderBeyondLimit, ready]

end Streams

namespace MixCoder

/-- A `getOutput` call is stopped by the scheduler's assertions exactly in the
states with a header beyond the limit. -/
theorem getOutput_stops_iff (backend : Backend β) (m : MixCoder V A β) :
    (∃ stopped, m.getOutput backend = .error stopped) ↔
      m.streams.HeaderBeyondLimit := by
  rw [← Streams.nextInstant_stops_iff]
  constructor
  · intro failure
    obtain ⟨stopped, failed⟩ := failure
    rcases bind_error.mp failed with undecided | ⟨⟨instant, streams⟩, decided, rest⟩
    · exact ⟨stopped, undecided⟩
    · cases instant with
      | none => cases rest
      | video videoPts => cases rest
      | audio audioPts =>
          obtain ⟨taken, succeeded⟩ := audioOutput_of_decided backend decided
          have contradiction := succeeded.symm.trans rest
          cases contradiction
  · intro failure
    obtain ⟨stopped, undecided⟩ := failure
    exact ⟨stopped, bind_error.mpr (Or.inl undecided)⟩

end MixCoder

/-- The two assertions of `isNextVideoStreamReady` hold in a `getOutput` call
on this mixer. -/
def SchedulerHolds (backend : Backend β) (m : MixCoder V A β) : Prop :=
  m.getOutput backend ≠ .error (.assertion .frameWithinAudioBucket) ∧
    m.getOutput backend ≠ .error (.assertion .audioBucketAhead)

theorem schedulerHolds_iff (backend : Backend β) (m : MixCoder V A β) :
    SchedulerHolds backend m ↔ ¬ m.streams.HeaderBeyondLimit := by
  rw [← MixCoder.getOutput_stops_iff backend m]
  constructor
  · intro holds failure
    obtain ⟨stopped, failed⟩ := failure
    rcases MixCoder.getOutput_error failed with first | second
    · rw [first] at failed
      exact holds.1 failed
    · rw [second] at failed
      exact holds.2 failed
  · intro holds
    exact ⟨fun failed => holds ⟨_, failed⟩, fun failed => holds ⟨_, failed⟩⟩

/-- In a run of `newInput` and `getOutput` calls the assertions hold at every
`getOutput` call if and only if none of these calls finds a header beyond the
limit at the front of a started queue. -/
theorem scheduler_holds_iff (codecs : Codecs V A) (backend : Backend β)
    (streamSource : Slot → StreamSource) (output : β) (calls : List MixCall) :
    EveryStep (Session.step codecs backend)
        (fun session call => call = .getOutput →
          SchedulerHolds backend session.mixCoder)
        (Session.start streamSource output) calls ↔
      EveryStep (Session.step codecs backend)
        (fun session call => call = .getOutput →
          ¬ session.mixCoder.streams.HeaderBeyondLimit)
        (Session.start streamSource output) calls := by
  refine everyStep_congr (fun _ => True) ?_ ?_ trivial
  · intro session call _
    rw [schedulerHolds_iff]
  · intro session call next _ _ _
    trivial

/-- The output has started at 40 ms when a video message of 1000 ms does not
decode and a new header follows it. -/
def headerAfterGap : List MixCall :=
  [.newInput (audioSample 0), .newInput (headerSample 0 1),
    .newInput (pictureSample 0 5), .getOutput, .newInput (audioSample 26),
    .getOutput, .getOutput, .newInput (pictureSample 40 6),
    .newInput (audioSample 52), .getOutput,
    .newInput (pictureSample 1000 255), .newInput (headerSample 1000 2)]

/-- The next `getOutput` call fails `audioBucketTimestamp >=
frameTimestamp`. -/
theorem scheduler_stopped_headerAfterGap :
    ¬ EveryStep (Session.step Codecs.echo Backend.silent)
      (fun session call => call = .getOutput →
        SchedulerHolds Backend.silent session.mixCoder)
      (Session.start (fun _ => .kDesktopStreamSource) ())
      (headerAfterGap ++ [.getOutput]) := by
  intro holds
  obtain ⟨session, reached⟩ := exists_ok
    (x := run (Session.step Codecs.echo Backend.silent)
      (Session.start (fun _ => .kDesktopStreamSource) ()) headerAfterGap)
    (by decide +kernel)
  have stops :
      run (Session.step Codecs.echo Backend.silent)
          (Session.start (fun _ => .kDesktopStreamSource) ())
          (headerAfterGap ++ [.getOutput]) =
        .error (.assertion .frameWithinAudioBucket) :=
    stoppedBy_eq_some.mp (by decide +kernel)
  have stepStops := step_error_of_run reached stops
  have lastHolds := everyStep_iff_forall_prefix.mp holds headerAfterGap
    .getOutput [] session rfl reached rfl
  rcases bind_error.mp stepStops with failed | ⟨_, _, finished⟩
  · exact lastHolds.1 failed
  · cases finished

end GroupVoip
