import GroupVoip.BucketClock
import GroupVoip.VideoValidity
import Mathlib.Data.List.DropRight

/-!
# When a video instant is ready

The scheduler looks at the fronts of the started queues.  Once the output has
started it is ready for every bucket that audio has reached, but for one in
which no front counts; and what it is ready for is what the mixer takes, but
for a start beyond the audio time.
-/

namespace GroupVoip

open Library.Runs

variable {V A β : Type}

namespace Streams

/-! ## The loop over the fronts -/

/-- A front counts as a header, or as a picture within the limit. -/
def FrontScan.counts (hasStarted : Bool) (limit : UInt32)
    (v : VideoRawData) : Bool :=
  v.sp = .kSpsPps || !(hasStarted && v.pts > limit)

/-- The fronts that the loop remembers: with one at `0xffffffff` it starts
over. -/
def latestFronts (vs : List VideoRawData) : List VideoRawData :=
  vs.rtakeWhile fun v => v.pts ≠ MAX_U32

namespace FrontScan

theorem front_frameTimestamp (hasStarted : Bool) (limit : UInt32)
    (f : FrontScan) (v : VideoRawData) :
    (f.front hasStarted limit v).frameTimestamp =
      if counts hasStarted limit v then (f.record v.pts).frameTimestamp
      else f.frameTimestamp := by
  rw [front, counts]
  by_cases header : v.sp = .kSpsPps
  · rw [if_pos header]
    simp [header, record]
  · rw [if_neg header]
    by_cases late : (hasStarted && v.pts > limit) = true
    · rw [if_pos late]
      simp [header, late]
    · rw [if_neg late]
      rw [Bool.not_eq_true] at late
      simp [header, late, record]

theorem record_eq_max_iff {f : FrontScan} {pts : UInt32} :
    (f.record pts).frameTimestamp = MAX_U32 ↔ pts = MAX_U32 := by
  rw [record]
  by_cases first : f.frameTimestamp = MAX_U32
  · rw [if_pos first]
  · rw [if_neg first]
    by_cases larger : pts > f.frameTimestamp
    · rw [if_pos larger]
    · rw [if_neg larger]
      constructor
      · intro isMax
        exact absurd isMax first
      · intro isMax
        rw [isMax] at larger
        exact absurd (UInt32.le_antisymm (le_maxU32 _)
          (UInt32.not_lt.mp larger)) first

section Fold

variable (hasStarted : Bool) (limit : UInt32)

/-- No front counts, or the last one that does is at `0xffffffff`. -/
theorem foldl_front_eq_max_iff (vs : List VideoRawData) :
    (vs.foldl (front hasStarted limit) {}).frameTimestamp = MAX_U32 ↔
      latestFronts (vs.filter (counts hasStarted limit)) = [] := by
  induction vs using List.reverseRecOn with
  | nil => simp [latestFronts]
  | append_singleton vs v inductionHypothesis =>
      rw [List.foldl_append, List.foldl_cons, List.foldl_nil,
        front_frameTimestamp, List.filter_append]
      by_cases isCounted : counts hasStarted limit v = true
      · rw [if_pos isCounted, record_eq_max_iff,
          List.filter_cons_of_pos isCounted, List.filter_nil, latestFronts,
          List.rtakeWhile_concat]
        simp
      · rw [if_neg isCounted, List.filter_cons_of_neg isCounted,
          List.filter_nil, List.append_nil]
        exact inductionHypothesis

/-- The loop remembers a front beyond a time. -/
theorem foldl_front_beyond_iff (time : UInt32) (vs : List VideoRawData) :
    (vs.foldl (front hasStarted limit) {}).Beyond time ↔
      ∃ v ∈ latestFronts (vs.filter (counts hasStarted limit)),
        time < v.pts := by
  induction vs using List.reverseRecOn with
  | nil => simp [latestFronts, Beyond]
  | append_singleton vs v inductionHypothesis =>
      rw [List.foldl_append, List.foldl_cons, List.foldl_nil,
        List.filter_append]
      generalize vs.foldl (front hasStarted limit) {} = f at *
      by_cases isCounted : counts hasStarted limit v = true
      · have recorded : (f.front hasStarted limit v).Beyond time ↔
            (f.record v.pts).Beyond time := by
          rw [Beyond, front_frameTimestamp, if_pos isCounted, Beyond]
        rw [recorded, List.filter_cons_of_pos isCounted, List.filter_nil,
          latestFronts, List.rtakeWhile_concat]
        by_cases sentinel : v.pts = MAX_U32
        · rw [sentinel]
          simp [not_beyond_record_sentinel]
        · rw [if_pos (by simp [sentinel]), ← latestFronts]
          by_cases outside : time < v.pts
          · refine ⟨fun _ => ⟨v, by simp, outside⟩, fun _ => ?_⟩
            exact beyond_record_outside f outside sentinel
          · rw [beyond_record_within f outside, inductionHypothesis]
            simp [outside, or_and_right, exists_or]
      · have same : (f.front hasStarted limit v).Beyond time ↔
            f.Beyond time := by
          rw [Beyond, front_frameTimestamp, if_neg isCounted, Beyond]
        rw [same, List.filter_cons_of_neg isCounted, List.filter_nil,
          List.append_nil]
        exact inductionHypothesis

/-- The flags and the time of the last header. -/
theorem foldl_front_flags (vs : List VideoRawData) :
    ((vs.foldl (front hasStarted limit) {}).hasAnyStreamStartedAndReady =
        vs.any fun v => v.sp ≠ .kSpsPps) ∧
      ((vs.foldl (front hasStarted limit) {}).hasSpsPps =
        vs.any fun v => v.sp = .kSpsPps) ∧
      ((vs.all fun v => v.sp = .kSpsPps) = true →
        (vs.foldl (front hasStarted limit) {}).spsPpsTimestamp =
          (vs.getLast?.map VideoRawData.pts).getD 0) := by
  induction vs using List.reverseRecOn with
  | nil => exact ⟨rfl, rfl, fun _ => rfl⟩
  | append_singleton vs v inductionHypothesis =>
      obtain ⟨any, header, last⟩ := inductionHypothesis
      rw [List.foldl_append, List.foldl_cons, List.foldl_nil]
      generalize vs.foldl (front hasStarted limit) {} = f at *
      rw [front, List.any_append, List.any_append, ← any, ← header]
      by_cases isHeader : v.sp = .kSpsPps
      · rw [if_pos isHeader]
        simp [isHeader, record]
      · rw [if_neg isHeader]
        split
        · simp [isHeader]
        · simp [isHeader, record]

end Fold

end FrontScan

/-! ## Fronts -/

variable {p p' : Streams V A} {audioPts : UInt32}

/-- The fronts of the started queues, in the order of the slots. -/
def fronts (p : Streams V A) : List VideoRawData :=
  slots.filterMap p.startedFront

theorem scanFronts_eq (p : Streams V A) (limit : UInt32) :
    p.scanFronts limit =
      p.fronts.foldl (FrontScan.front p.hasStarted limit) {} := by
  rw [scanFronts, fronts, List.foldl_filterMap]
  congr 1
  funext f i
  rw [scanFront_eq]
  cases p.startedFront i <;> rfl

/-- The fronts that count for the bucket of the audio time. -/
def countedFronts (p : Streams V A) (audioPts : UInt32) :
    List VideoRawData :=
  p.fronts.filter
    (FrontScan.counts p.hasStarted (p.nextLimitTimestamp audioPts))

/-! ## No bucket is withheld -/

/-- An answer that is not ready comes before the next bucket. -/
def NeverWithheld (p : Streams V A) : Prop :=
  p.hasStarted = true → ∀ audioPts, p.isNextAudioStreamReady = some audioPts →
    ∀ p', p.isNextVideoStreamReady audioPts = .ok (none, p') →
      (audioPts.toNat : ℚ) < p.lastBucketTimestamp + 100 / 3

/-- A front counts whenever audio has reached the next bucket. -/
def ShowsWhenDue (p : Streams V A) : Prop :=
  p.hasStarted = true → ∀ audioPts, p.isNextAudioStreamReady = some audioPts →
    p.lastBucketTimestamp + 100 / 3 ≤ (audioPts.toNat : ℚ) →
      latestFronts (p.countedFronts audioPts) ≠ []

/-- Once the output has started, an answer is not ready if and only if no
front counts or audio is behind the next bucket. -/
theorem isNextVideoStreamReady_none_iff (started : p.hasStarted = true)
    (holds : ∀ stopped, p.isNextVideoStreamReady audioPts ≠ .error stopped) :
    (∃ p', p.isNextVideoStreamReady audioPts = .ok (none, p')) ↔
      latestFronts (p.countedFronts audioPts) = [] ∨
        (audioPts.toNat : ℚ) < p.lastBucketTimestamp + 100 / 3 := by
  have isNext : p.lastBucketTimestamp + 100 / 3 = p.nextBucketTimestamp := by
    rw [nextBucketTimestamp, frameInterval_eq]
  rw [countedFronts, ← FrontScan.foldl_front_eq_max_iff, ← scanFronts_eq,
    isNext, ← not_le, ← nextBucket_le_audioBucket_iff]
  rw [isNextVideoStreamReady, if_pos started] at holds ⊢
  generalize (p.scanFronts (p.nextLimitTimestamp audioPts)).frameTimestamp =
    frameTimestamp at *
  by_cases noFront : frameTimestamp = MAX_U32
  · rw [if_neg (not_not.mpr noFront)]
    simp [noFront]
  · rw [if_pos noFront] at holds ⊢
    simp only [noFront, false_or]
    rw [nextBucket] at holds ⊢
    split
    · split
      · rename_i reached
        simp [reached]
      · rename_i behind
        simp [behind]
    · rename_i beyond
      rw [if_neg beyond] at holds
      cases enough : decide (p.audioBucketTimestamp audioPts ≥
          frameTimestamp.toNat) with
      | false =>
          rw [enough] at holds
          exact absurd rfl (holds _)
      | true =>
          cases isAhead : decide (p.audioBucketTimestamp audioPts >
              p.nextBucketTimestamp) with
          | false =>
              rw [enough, isAhead] at holds
              exact absurd rfl (holds _)
          | true =>
              have ahead := of_decide_eq_true isAhead
              simp [assertThat, bind, Except.bind, pure, Except.pure,
                ahead.le]

theorem neverWithheld_iff : p.NeverWithheld ↔ p.ShowsWhenDue := by
  constructor
  · intro never started audioPts ready due noFront
    have holds : ∀ stopped,
        p.isNextVideoStreamReady audioPts ≠ .error stopped := by
      intro stopped failed
      rw [countedFronts, ← FrontScan.foldl_front_eq_max_iff,
        ← scanFronts_eq] at noFront
      rw [isNextVideoStreamReady, if_pos started,
        if_neg (not_not.mpr noFront)] at failed
      cases failed
    obtain ⟨p', answered⟩ :=
      (isNextVideoStreamReady_none_iff started holds).mpr (.inl noFront)
    exact absurd due (not_le.mpr (never started audioPts ready p' answered))
  · intro shows started audioPts ready p' answered
    have holds : ∀ stopped,
        p.isNextVideoStreamReady audioPts ≠ .error stopped := by
      intro stopped failed
      rw [answered] at failed
      cases failed
    rcases (isNextVideoStreamReady_none_iff started holds).mp
      ⟨p', answered⟩ with noFront | before
    · by_contra reached
      exact shows started audioPts ready (not_lt.mp reached) noFront
    · exact before

/-! ## No ready instant is lost -/

/-- The first instant: the largest time of the fronts if one is a picture, the
time of the last one if all are headers. -/
def FirstBeyond (p : Streams V A) (audioPts : UInt32) : Prop :=
  if (p.fronts.all fun v => v.sp = .kSpsPps) = true then
    ∃ v, p.fronts.getLast? = some v ∧ audioPts < v.pts
  else
    (latestFronts p.fronts = [] ∧ audioPts ≠ MAX_U32) ∨
      ∃ v ∈ latestFronts p.fronts, audioPts < v.pts

def StartsAhead (p : Streams V A) : Prop :=
  p.hasStarted = false ∧
    ∃ audioPts, p.isNextAudioStreamReady = some audioPts ∧
      p.FirstBeyond audioPts

theorem lt_frameTimestamp_iff (f : FrontScan) :
    audioPts < f.frameTimestamp ↔
      (f.frameTimestamp = MAX_U32 ∧ audioPts ≠ MAX_U32) ∨
        f.Beyond audioPts := by
  rw [FrontScan.Beyond]
  by_cases sentinel : f.frameTimestamp = MAX_U32
  · rw [sentinel]
    simp only [true_and, ne_eq, not_true, false_and, or_false]
    constructor
    · intro below same
      rw [same] at below
      exact absurd below (UInt32.lt_irrefl _)
    · intro differs
      rcases UInt32.le_iff_lt_or_eq.mp (le_maxU32 audioPts) with below | same
      · exact below
      · exact absurd same differs
  · simp [sentinel]

theorem counts_of_notStarted (limit : UInt32) (vs : List VideoRawData) :
    vs.filter (FrontScan.counts false limit) = vs := by
  rw [List.filter_eq_self]
  intro v _
  simp [FrontScan.counts]

/-- The first instant is beyond the audio time if and only if its front is. -/
theorem firstBucket_beyond_iff (notStarted : p.hasStarted = false) :
    (∃ videoPts p', p.isNextVideoStreamReady audioPts =
        .ok (some videoPts, p') ∧ audioPts < videoPts) ↔
      p.FirstBeyond audioPts := by
  rw [isNextVideoStreamReady, if_neg (by simp [notStarted]), scanFronts_eq,
    notStarted, firstBucket, FirstBeyond]
  generalize p.nextLimitTimestamp audioPts = limit
  obtain ⟨any, header, last⟩ :=
    FrontScan.foldl_front_flags false limit p.fronts
  have isMax := FrontScan.foldl_front_eq_max_iff false limit p.fronts
  have beyond := FrontScan.foldl_front_beyond_iff false limit audioPts p.fronts
  rw [counts_of_notStarted] at isMax beyond
  generalize p.fronts.foldl (FrontScan.front false limit) {} = f at *
  rw [any, header]
  by_cases onlyHeaders : (p.fronts.all fun v => v.sp = .kSpsPps) = true
  · have noPicture : (p.fronts.any fun v => v.sp ≠ .kSpsPps) = false := by
      simpa using onlyHeaders
    rw [if_pos onlyHeaders, noPicture, if_neg Bool.false_ne_true]
    rcases List.eq_nil_or_concat p.fronts with isEmpty | ⟨before, v, isLast⟩
    · rw [isEmpty]
      simp
    · have hasHeader : (p.fronts.any fun v => v.sp = .kSpsPps) = true := by
        rw [isLast] at onlyHeaders ⊢
        simp at onlyHeaders
        simp [onlyHeaders.2]
      rw [hasHeader, if_pos rfl, last onlyHeaders, isLast]
      simp
  · have hasPicture : (p.fronts.any fun v => v.sp ≠ .kSpsPps) = true := by
      simpa using onlyHeaders
    rw [if_neg onlyHeaders, hasPicture, if_pos rfl, ← isMax, ← beyond,
      ← lt_frameTimestamp_iff]
    simp

theorem started_le {videoPts : UInt32} (started : p.hasStarted = true)
    (answered : p.isNextVideoStreamReady audioPts =
      .ok (some videoPts, p')) : videoPts ≤ audioPts := by
  obtain ⟨-, le, isTime⟩ := isNextVideoStreamReady_moves started answered
  rw [isTime]
  exact truncU32_le le

theorem startsAhead_iff :
    p.StartsAhead ↔ ∃ audioPts videoPts p',
      p.isNextAudioStreamReady = some audioPts ∧
        p.isNextVideoStreamReady audioPts = .ok (some videoPts, p') ∧
        audioPts < videoPts := by
  constructor
  · rintro ⟨notStarted, audioPts, ready, beyond⟩
    obtain ⟨videoPts, p', answered, above⟩ :=
      (firstBucket_beyond_iff notStarted).mpr beyond
    exact ⟨audioPts, videoPts, p', ready, answered, above⟩
  · rintro ⟨audioPts, videoPts, p', ready, answered, above⟩
    cases started : p.hasStarted with
    | true =>
        have le := started_le started answered
        exact absurd above (UInt32.not_lt.mpr le)
    | false =>
        exact ⟨started, audioPts, ready,
          (firstBucket_beyond_iff started).mp ⟨videoPts, p', answered, above⟩⟩

end Streams

namespace MixCoder

/-- A `getOutput` call whose scheduler is ready for a video instant takes what
is due by then from every started queue. -/
def ReadyIsTaken (backend : Backend β) (m : MixCoder V A β) : Prop :=
  ∀ audioPts videoPts p', m.streams.isNextAudioStreamReady = some audioPts →
    m.streams.isNextVideoStreamReady audioPts = .ok (some videoPts, p') →
    ∃ m' out, m.getOutput backend = .ok (m', out) ∧
      out.instant = .video videoPts ∧
      ∀ i, (m.streams.stream i).videoStarted = true →
        out.poppedVideo i = (m.streams.stream i).due videoPts ∧
          (m'.streams.stream i).videoQueue =
            (m.streams.stream i).left videoPts

theorem nextInstant_of_ready {p p' : Streams V A}
    {audioPts videoPts : UInt32}
    (ready : p.isNextAudioStreamReady = some audioPts)
    (answered : p.isNextVideoStreamReady audioPts =
      .ok (some videoPts, p')) :
    p.nextInstant =
      .ok (if audioPts < videoPts then .audio audioPts else .video videoPts,
        p') := by
  rw [Streams.nextInstant, ready]
  dsimp only
  rw [answered]
  rfl

theorem readyIsTaken_iff (backend : Backend β) (m : MixCoder V A β) :
    m.ReadyIsTaken backend ↔ ¬ m.streams.StartsAhead := by
  rw [Streams.startsAhead_iff]
  constructor
  · rintro taken ⟨audioPts, videoPts, p', ready, answered, above⟩
    obtain ⟨m', out, called, isVideo, -⟩ :=
      taken audioPts videoPts p' ready answered
    obtain ⟨streams, decided, -⟩ := getOutput_video.mp ⟨called, isVideo⟩
    rw [nextInstant_of_ready ready answered, if_pos above] at decided
    cases decided
  · intro notAhead audioPts videoPts p' ready answered
    have notAbove : ¬ audioPts < videoPts := by
      intro above
      exact notAhead ⟨audioPts, videoPts, p', ready, answered, above⟩
    have decided := nextInstant_of_ready ready answered
    rw [if_neg notAbove] at decided
    obtain ⟨⟨m', out⟩, carriedOut⟩ : ∃ taken,
        (m.setStreams p').videoOutput backend videoPts = taken := ⟨_, rfl⟩
    obtain ⟨called, isVideo⟩ :=
      getOutput_video.mpr ⟨p', decided, carriedOut⟩
    refine ⟨m', out, called, isVideo, ?_⟩
    intro i started
    have shown := (videoOutput_taken carriedOut).shown i
    rw [setStreams_streams, Streams.nextInstant_stream decided] at shown
    constructor
    · rw [shown.taken, if_pos started]
    · rw [shown.stream, if_pos started]

end MixCoder

/-- In a run, every ready video instant is taken by its `getOutput` call if and
only if no call finds a first instant beyond the audio time. -/
theorem video_readyIsTaken_iff (codecs : Codecs V A) (backend : Backend β)
    (streamSource : Slot → StreamSource) (output : β) (calls : List MixCall) :
    EveryStep (Session.step codecs backend)
        (fun session call => call = .getOutput →
          session.mixCoder.ReadyIsTaken backend)
        (Session.start streamSource output) calls ↔
      EveryStep (Session.step codecs backend)
        (fun session call => call = .getOutput →
          ¬ session.mixCoder.streams.StartsAhead)
        (Session.start streamSource output) calls := by
  refine everyStep_congr (fun _ => True) ?_ ?_ trivial
  · intro session call _
    rw [MixCoder.readyIsTaken_iff]
  · intro session call next _ _ _
    trivial

/-- A first picture is there before audio has come to its time. -/
def pictureAhead : List MixCall :=
  [.newInput (audioSample 0), .newInput (headerSample 0 1),
    .newInput (pictureSample 0 5), .getOutput, .newInput (audioSample 26),
    .getOutput, .newInput (pictureSample 40 6)]

/-- The scheduler starts the output at 40 ms, and the mixer takes the audio of
26 ms. -/
theorem video_ready_pictureAhead :
    ¬ EveryStep (Session.step Codecs.echo Backend.silent)
      (fun session call => call = .getOutput →
        session.mixCoder.ReadyIsTaken Backend.silent)
      (Session.start (fun _ => .kDesktopStreamSource) ())
      (pictureAhead ++ [.getOutput]) := by
  intro taken
  have reaches :
      (run (Session.step Codecs.echo Backend.silent)
        (Session.start (fun _ => .kDesktopStreamSource) ())
        pictureAhead).map (fun session =>
          let p := session.mixCoder.streams
          (p.isNextAudioStreamReady,
            (p.isNextVideoStreamReady 26).map Prod.fst)) =
        .ok (some 26, .ok (some 40)) := by
    decide +kernel
  obtain ⟨session, reached, isState⟩ := map_ok.mp reaches
  obtain ⟨ready, isAnswer⟩ := Prod.mk.inj isState
  obtain ⟨⟨answer, p'⟩, answered, isReady⟩ := map_ok.mp isAnswer
  cases isReady
  have takenHere := everyStep_iff_forall_prefix.mp taken pictureAhead
    .getOutput [] session rfl reached rfl
  obtain ⟨m', out, called, isVideo, -⟩ :=
    takenHere 26 40 p' ready answered
  obtain ⟨streams, decided, -⟩ :=
    MixCoder.getOutput_video.mp ⟨called, isVideo⟩
  rw [MixCoder.nextInstant_of_ready ready answered, if_pos (by decide)]
    at decided
  cases decided

/-- In a run, the scheduler withholds no bucket that audio has reached if and
only if some front counts at every `getOutput` call that finds such a
bucket. -/
theorem video_neverWithheld_iff (codecs : Codecs V A) (backend : Backend β)
    (streamSource : Slot → StreamSource) (output : β) (calls : List MixCall) :
    EveryStep (Session.step codecs backend)
        (fun session call => call = .getOutput →
          session.mixCoder.streams.NeverWithheld)
        (Session.start streamSource output) calls ↔
      EveryStep (Session.step codecs backend)
        (fun session call => call = .getOutput →
          session.mixCoder.streams.ShowsWhenDue)
        (Session.start streamSource output) calls := by
  refine everyStep_congr (fun _ => True) ?_ ?_ trivial
  · intro session call _
    rw [Streams.neverWithheld_iff]
  · intro session call next _ _ _
    trivial

/-- The output has started at 40 ms, and audio goes on to 78 ms without another
picture. -/
def audioGoesOn : List MixCall :=
  [.newInput (audioSample 0), .newInput (headerSample 0 1),
    .newInput (pictureSample 0 5), .getOutput, .newInput (audioSample 26),
    .getOutput, .getOutput, .newInput (pictureSample 40 6),
    .newInput (audioSample 52), .getOutput, .getOutput,
    .newInput (audioSample 78)]

/-- The bucket at 73 ms is withheld at 78 ms. -/
theorem video_withheld_audioGoesOn :
    ¬ EveryStep (Session.step Codecs.echo Backend.silent)
      (fun session call => call = .getOutput →
        session.mixCoder.streams.NeverWithheld)
      (Session.start (fun _ => .kDesktopStreamSource) ())
      (audioGoesOn ++ [.getOutput]) := by
  intro never
  have reaches :
      (run (Session.step Codecs.echo Backend.silent)
        (Session.start (fun _ => .kDesktopStreamSource) ())
        audioGoesOn).map (fun session =>
          let p := session.mixCoder.streams
          (p.hasStarted, p.isNextAudioStreamReady, p.lastBucketTimestamp,
            (p.isNextVideoStreamReady 78).map Prod.fst)) =
        .ok (true, some 78, 40, .ok none) := by
    decide +kernel
  obtain ⟨session, reached, isState⟩ := map_ok.mp reaches
  rw [Prod.mk.injEq, Prod.mk.injEq, Prod.mk.injEq] at isState
  obtain ⟨started, ready, lastBucket, noAnswer⟩ := isState
  obtain ⟨⟨answer, p'⟩, answered, isNone⟩ := map_ok.mp noAnswer
  cases isNone
  have before := everyStep_iff_forall_prefix.mp never audioGoesOn .getOutput
    [] session rfl reached rfl started 78 ready p' answered
  have audioPts : (78 : UInt32).toNat = 78 := by decide
  rw [lastBucket, audioPts] at before
  norm_num at before

end GroupVoip
