import GroupVoip.Library.Loops
import GroupVoip.MixCoder

/-!
# What a `getOutput` call does

One description for each function behind `MixCoder::getOutput`: what its
result says about the state before it.
-/

namespace GroupVoip

open Library.Runs Library.Loops

variable {V A β : Type}

theorem assertThat_ok {condition : Bool} {asked : Assertion} {u : Unit} :
    assertThat condition asked = .ok u ↔ condition = true := by
  cases condition <;> simp [assertThat]

theorem assertThat_error {condition : Bool} {asked : Assertion}
    {stopped : Abort} :
    assertThat condition asked = .error stopped ↔
      condition = false ∧ stopped = .assertion asked := by
  cases condition <;> simp [assertThat, eq_comm]

namespace Streams

theorem mem_slots (i : Slot) : i ∈ slots :=
  List.mem_finRange i

theorem slots_nodup : slots.Nodup :=
  List.nodup_finRange _

/-- The clocks and flags of two states may differ, their slots do not. -/
theorem nextBucket_ok {p p' : Streams V A} {audioTimestamp : UInt32}
    {frameTimestamp : UInt32} {ready : Option UInt32}
    (decided : p.nextBucket audioTimestamp frameTimestamp = .ok (ready, p')) :
    p' = { p with lastBucketTimestamp := p'.lastBucketTimestamp } := by
  unfold nextBucket at decided
  split at decided
  · split at decided
    · cases decided
      rfl
    · cases decided
      rfl
  · obtain ⟨_, _, rest⟩ := bind_ok.mp decided
    obtain ⟨_, _, rest⟩ := bind_ok.mp rest
    cases rest
    rfl

theorem firstBucket_eq {p p' : Streams V A} {audioTimestamp : UInt32}
    {f : FrontScan} {ready : Option UInt32}
    (decided : p.firstBucket audioTimestamp f = (ready, p')) :
    p' = { p with
      hasStarted := p'.hasStarted
      lastBucketTimestamp := p'.lastBucketTimestamp } := by
  unfold firstBucket at decided
  split at decided
  · cases decided
    rfl
  · split at decided <;> cases decided <;> rfl

/-- Asking for the next video instant moves the bucket clock only. -/
theorem isNextVideoStreamReady_ok {p p' : Streams V A}
    {audioTimestamp : UInt32} {ready : Option UInt32}
    (decided : p.isNextVideoStreamReady audioTimestamp = .ok (ready, p')) :
    p' = { p with
      hasStarted := p'.hasStarted
      lastBucketTimestamp := p'.lastBucketTimestamp } := by
  simp only [isNextVideoStreamReady] at decided
  split at decided
  · split at decided
    · rw [nextBucket_ok decided]
    · cases decided
      rfl
  · exact firstBucket_eq (Except.ok.inj decided)

theorem isNextVideoStreamReady_error {p : Streams V A}
    {audioTimestamp : UInt32} {stopped : Abort}
    (failed : p.isNextVideoStreamReady audioTimestamp = .error stopped) :
    stopped = .assertion .frameWithinAudioBucket ∨
      stopped = .assertion .audioBucketAhead := by
  simp only [isNextVideoStreamReady] at failed
  split at failed
  · split at failed
    · unfold nextBucket at failed
      split at failed
      · split at failed <;> cases failed
      · rcases bind_error.mp failed with first | ⟨_, _, second⟩
        · exact Or.inl (assertThat_error.mp first).2
        · rcases bind_error.mp second with ahead | ⟨_, _, finished⟩
          · exact Or.inr (assertThat_error.mp ahead).2
          · cases finished
    · cases failed
  · cases failed

/-! ## Audio readiness -/

/-- The loop runs to its end when no started queue is empty, and then it has
counted the started ones. -/
theorem scanAudio_finished {p : Streams V A} {indexes : List Slot} :
    ∀ {audioTimestamp : UInt32} {totalStreams : Nat},
      ((p.scanAudio indexes audioTimestamp totalStreams).1 = true ↔
        ∀ i ∈ indexes, (p.stream i).audioStarted = true →
          (p.stream i).audioQueue ≠ []) ∧
      ((p.scanAudio indexes audioTimestamp totalStreams).1 = true →
        (p.scanAudio indexes audioTimestamp totalStreams).2.2 =
          totalStreams + indexes.countP fun i => (p.stream i).audioStarted) := by
  induction indexes with
  | nil =>
      intro _ _
      simp [scanAudio]
  | cons first rest inductionHypothesis =>
      intro audioTimestamp totalStreams
      rw [scanAudio]
      by_cases started : (p.stream first).audioStarted = true
      · rw [if_pos started]
        rcases queued : (p.stream first).audioQueue with _ | ⟨front, others⟩
        · simp [started, queued]
        · have later := @inductionHypothesis
            (if front.pts < audioTimestamp then front.pts else audioTimestamp)
            (totalStreams + 1)
          refine ⟨?_, ?_⟩
          · rw [later.1]
            simp [queued]
          · intro finished
            rw [later.2 finished, List.countP_cons_of_pos (by simpa using started)]
            omega
      · rw [if_neg started]
        have later := @inductionHypothesis audioTimestamp totalStreams
        refine ⟨?_, ?_⟩
        · rw [later.1]
          simp [started]
        · intro finished
          rw [later.2 finished, List.countP_cons_of_neg (by simpa using started)]

def AudioReady (p : Streams V A) : Prop :=
  (∃ i, (p.stream i).audioStarted = true) ∧
    ∀ i, (p.stream i).audioStarted = true → (p.stream i).audioQueue ≠ []

theorem isNextAudioStreamReady_isSome {p : Streams V A} :
    p.isNextAudioStreamReady.isSome = true ↔ p.AudioReady := by
  have scanned := @scanAudio_finished V A p slots MAX_U32 0
  have asked : p.isNextAudioStreamReady.isSome = true ↔
      (p.scanAudio slots MAX_U32 0).2.2 ≠ 0 ∧
        (p.scanAudio slots MAX_U32 0).1 = true := by
    simp only [isNextAudioStreamReady]
    split
    · rename_i both
      simpa using both
    · rename_i neither
      simpa using neither
  rw [asked]
  constructor
  · rintro ⟨some, finished⟩
    rw [scanned.2 finished, Nat.zero_add, ← Nat.pos_iff_ne_zero,
      List.countP_pos_iff] at some
    rcases some with ⟨i, _, started⟩
    exact ⟨⟨i, started⟩, fun j => scanned.1.mp finished j (mem_slots j)⟩
  · rintro ⟨⟨i, started⟩, supplied⟩
    have finished := scanned.1.mpr fun j _ => supplied j
    refine ⟨?_, finished⟩
    rw [scanned.2 finished, Nat.zero_add, ← Nat.pos_iff_ne_zero,
      List.countP_pos_iff]
    exact ⟨i, mem_slots i, started⟩

theorem isNextAudioStreamReady_started {p : Streams V A} {audioPts : UInt32}
    (ready : p.isNextAudioStreamReady = some audioPts) (i : Slot)
    (started : (p.stream i).audioStarted = true) :
    (p.stream i).audioQueue ≠ [] := by
  have audioReady : p.AudioReady := by
    rw [← isNextAudioStreamReady_isSome, ready]
    rfl
  exact audioReady.2 i started

/-- The next instant leaves the slots alone, and comes only when audio is
ready. -/
theorem nextInstant_ok {p p' : Streams V A} {instant : Instant}
    (decided : p.nextInstant = .ok (instant, p')) :
    p' = { p with
        hasStarted := p'.hasStarted
        lastBucketTimestamp := p'.lastBucketTimestamp } ∧
      (instant ≠ .none → ∃ audioPts, p.isNextAudioStreamReady = some audioPts) := by
  simp only [nextInstant] at decided
  cases ready : p.isNextAudioStreamReady with
  | none =>
      rw [ready] at decided
      cases decided
      exact ⟨rfl, fun instant => absurd rfl instant⟩
  | some audioPts =>
      rw [ready] at decided
      obtain ⟨⟨video, asked⟩, answered, rest⟩ := bind_ok.mp decided
      have same := isNextVideoStreamReady_ok answered
      cases video with
      | none =>
          cases rest
          exact ⟨same, fun _ => ⟨audioPts, rfl⟩⟩
      | some videoPts =>
          cases rest
          exact ⟨same, fun _ => ⟨audioPts, rfl⟩⟩

theorem nextInstant_stream {p p' : Streams V A} {instant : Instant}
    (decided : p.nextInstant = .ok (instant, p')) : p'.stream = p.stream := by
  rw [(nextInstant_ok decided).1]

theorem nextInstant_error {p : Streams V A} {stopped : Abort}
    (failed : p.nextInstant = .error stopped) :
    stopped = .assertion .frameWithinAudioBucket ∨
      stopped = .assertion .audioBucketAhead := by
  simp only [nextInstant] at failed
  cases ready : p.isNextAudioStreamReady with
  | none =>
      rw [ready] at failed
      cases failed
  | some audioPts =>
      rw [ready] at failed
      rcases bind_error.mp failed with asked | ⟨⟨video, asked⟩, answered, rest⟩
      · exact isNextVideoStreamReady_error asked
      · cases video <;> cases rest

end Streams

/-! ## The video loop -/

namespace Stream

/-- The entries that a video instant takes, and those it leaves. -/
def due (s : Stream V A) (videoPts : UInt32) : List VideoRawData :=
  s.videoQueue.takeWhile fun v => v.pts ≤ videoPts

def left (s : Stream V A) (videoPts : UInt32) : List VideoRawData :=
  s.videoQueue.dropWhile fun v => v.pts ≤ videoPts

theorem due_append_left (s : Stream V A) (videoPts : UInt32) :
    s.due videoPts ++ s.left videoPts = s.videoQueue :=
  List.takeWhile_append_dropWhile

/-- With enough turns the loop takes all entries that are due. -/
theorem popVideoFrames_eq (videoPts : UInt32) (turns : Nat) :
    ∀ s : Stream V A, s.videoQueue.length < turns →
      s.popVideoFrames turns videoPts =
        (s.due videoPts, { s with videoQueue := s.left videoPts }) := by
  induction turns with
  | zero =>
      intro s enough
      omega
  | succ turns inductionHypothesis =>
      intro s enough
      rcases queued : s.videoQueue with _ | ⟨v, rest⟩
      · have same : s = { s with videoQueue := [] } := by rw [← queued]
        simp only [popVideoFrames, getNextVideoFrame, due, left, queued]
        rw [same]
        rfl
      · have later := inductionHypothesis { s with videoQueue := rest }
          (by rw [queued] at enough; exact Nat.lt_of_succ_lt_succ enough)
        by_cases isDue : v.pts ≤ videoPts
        · simp only [popVideoFrames, getNextVideoFrame, queued, if_pos isDue,
            later]
          simp [due, left, queued, isDue]
        · have same : s = { s with videoQueue := v :: rest } := by
            rw [← queued]
          simp only [popVideoFrames, getNextVideoFrame, queued, if_neg isDue]
          rw [same]
          simp [due, left, isDue]

/-- One slot's turn of a video instant. -/
structure VideoShown (s : Stream V A) (cached : Option VideoRawData)
    (videoPts : UInt32) (popped : List VideoRawData) (s' : Stream V A)
    (cached' : Option VideoRawData) : Prop where
  taken : popped = if s.videoStarted then s.due videoPts else []
  stream : s' =
    if s.videoStarted then { s with videoQueue := s.left videoPts } else s
  shown : cached' = (popped.getLast?.or cached).map fun v =>
    v.mark s.streamSource
      (s.videoStarted && s.videoDecoder.hasFirstFrameDecoded videoPts)

theorem showVideo_shown (s : Stream V A) (cached : Option VideoRawData)
    (videoPts : UInt32) :
    VideoShown s cached videoPts (s.showVideo cached videoPts).1
      (s.showVideo cached videoPts).2.1 (s.showVideo cached videoPts).2.2 := by
  have enough : s.videoQueue.length < s.videoQueue.length + 1 := by omega
  have popped := popVideoFrames_eq videoPts _ s enough
  cases started : s.videoStarted with
  | false =>
      have notStarted : s.isStreamOnlineStarted .kVideoStreamType = false :=
        started
      constructor <;> simp [showVideo, notStarted, started]
  | true =>
      have isStarted : s.isStreamOnlineStarted .kVideoStreamType = true :=
        started
      constructor <;> simp [showVideo, isStarted, started, popped]

end Stream

namespace VideoLoop

def view (l : VideoLoop V A) (i : Slot) :
    Stream V A × Option VideoRawData × List VideoRawData :=
  (l.stream i, l.rawVideoData i, l.popped i)

theorem frames (videoPts : UInt32) :
    Frames (fun i (l l' : VideoLoop V A) => l' = l.turn videoPts i) view := by
  intro i l l' turned j different
  rw [turned]
  simp [view, turn, different]

/-- What the first loop of the video branch does to the slots. -/
theorem finished (videoPts : UInt32) (l : VideoLoop V A) (i : Slot) :
    Stream.VideoShown (l.stream i) (l.rawVideoData i) videoPts
      ((Streams.slots.foldl (turn videoPts) l).popped i)
      ((Streams.slots.foldl (turn videoPts) l).stream i)
      ((Streams.slots.foldl (turn videoPts) l).rawVideoData i) := by
  have looped := turns_foldl (turn videoPts) Streams.slots l
  generalize Streams.slots.foldl (turn videoPts) l = l' at looped ⊢
  refine looped.entry
    (fun _ before after => Stream.VideoShown before.1 before.2.1 videoPts
      after.2.2 after.1 after.2.1)
    (frames videoPts) ?_ Streams.slots_nodup i (Streams.mem_slots i)
  intro i l l' turned
  rw [turned]
  have shown := Stream.showVideo_shown (l.stream i) (l.rawVideoData i) videoPts
  simpa [view, turn] using shown

/-- The counter counts the slots whose cached entry is valid. -/
theorem total (videoPts : UInt32) (l : VideoLoop V A) :
    (Streams.slots.foldl (turn videoPts) l).totalStreams = l.totalStreams +
      Streams.slots.countP fun i => videoValid
        ((Streams.slots.foldl (turn videoPts) l).rawVideoData i) := by
  have looped := turns_foldl (turn videoPts) Streams.slots l
  generalize Streams.slots.foldl (turn videoPts) l = l' at looped ⊢
  refine looped.count (fun entry => videoValid entry.2.1) (frames videoPts) ?_
    Streams.slots_nodup
  intro i l l' turned
  rw [turned]
  simp [view, turn]

end VideoLoop

/-! ## The audio loop -/

namespace Stream

/-- A started stream gives up the frame at its front, and any other stream
keeps everything. -/
theorem showAudio_ok {s s' : Stream V A} {cached cached' : Option AudioRawData}
    {popped : Option AudioRawData} :
    s.showAudio cached = .ok (popped, s', cached') ↔
      (s.audioStarted = true ∧ ∃ a rest, s.audioQueue = a :: rest ∧
        popped = some a ∧ s' = { s with audioQueue := rest } ∧
        cached' = some (a.mark s.streamSource true)) ∨
      (s.audioStarted = false ∧ popped = none ∧ s' = s ∧
        cached' = cached.map fun a => a.mark s.streamSource false) := by
  rw [showAudio]
  by_cases started : s.isStreamOnlineStarted .kAudioStreamType = true
  · have audioStarted : s.audioStarted = true := started
    rw [if_pos started]
    rcases queued : s.audioQueue with _ | ⟨a, rest⟩
    · simp [getNextAudioFrame, queued, audioStarted]
    · simp [getNextAudioFrame, queued, audioStarted, eq_comm]
  · have notStarted : s.audioStarted = false := by
      simpa [isStreamOnlineStarted] using started
    rw [if_neg started]
    simp [notStarted, eq_comm]

end Stream

namespace AudioLoop

def view (l : AudioLoop V A) (i : Slot) :
    Stream V A × Option AudioRawData × Option AudioRawData :=
  (l.stream i, l.rawAudioData i, l.popped i)

theorem turn_ok {l l' : AudioLoop V A} {i : Slot}
    (turned : l.turn i = .ok l') :
    ∃ popped s cached,
      (l.stream i).showAudio (l.rawAudioData i) = .ok (popped, s, cached) ∧
        l' = {
          stream := Function.update l.stream i s
          rawAudioData := Function.update l.rawAudioData i cached
          totalStreams :=
            if audioValid cached then l.totalStreams + 1 else l.totalStreams
          totalMobileStreams :=
            if audioMobile cached then l.totalMobileStreams + 1
            else l.totalMobileStreams
          popped := Function.update l.popped i popped } := by
  obtain ⟨⟨popped, s, cached⟩, shown, rest⟩ := bind_ok.mp turned
  cases rest
  exact ⟨popped, s, cached, shown, rfl⟩

theorem frames :
    Frames (fun i (l l' : AudioLoop V A) => l.turn i = .ok l') view := by
  intro i l l' turned j different
  obtain ⟨popped, s, cached, _, rfl⟩ := turn_ok turned
  simp [view, different]

theorem entries (i : Slot) (l l' : AudioLoop V A)
    (turned : l.turn i = .ok l') :
    (l.stream i).showAudio (l.rawAudioData i) =
      .ok (l'.popped i, l'.stream i, l'.rawAudioData i) := by
  obtain ⟨popped, s, cached, shown, rfl⟩ := turn_ok turned
  simpa using shown

/-- What the first loop of the audio branch leaves behind. -/
structure Finished (l l' : AudioLoop V A) : Prop where
  shown : ∀ i, (l.stream i).showAudio (l.rawAudioData i) =
    .ok (l'.popped i, l'.stream i, l'.rawAudioData i)
  total : l'.totalStreams = l.totalStreams +
    Streams.slots.countP fun i => audioValid (l'.rawAudioData i)
  mobile : l'.totalMobileStreams = l.totalMobileStreams +
    Streams.slots.countP fun i => audioMobile (l'.rawAudioData i)

theorem finished {l l' : AudioLoop V A}
    (reached : run AudioLoop.turn l Streams.slots = .ok l') :
    Finished l l' := by
  have looped := turns_run reached
  constructor
  · intro i
    exact looped.entry
      (fun _ before after => before.1.showAudio before.2.1 =
        .ok (after.2.2, after.1, after.2.1))
      frames entries Streams.slots_nodup i (Streams.mem_slots i)
  · refine looped.count (fun entry => audioValid entry.2.1) frames
      ?_ Streams.slots_nodup
    intro i l l' turned
    obtain ⟨popped, s, cached, _, rfl⟩ := turn_ok turned
    simp [view]
  · refine looped.count (fun entry => audioMobile entry.2.1) frames
      ?_ Streams.slots_nodup
    intro i l l' turned
    obtain ⟨popped, s, cached, _, rfl⟩ := turn_ok turned
    simp [view]

theorem total {l : AudioLoop V A}
    (supplied : ∀ i, (l.stream i).audioStarted = true →
      (l.stream i).audioQueue ≠ []) :
    ∃ l', run AudioLoop.turn l Streams.slots = .ok l' := by
  refine run_total
    (fun entry => entry.1.audioStarted = true → entry.1.audioQueue ≠ [])
    frames ?_ Streams.slots_nodup fun i _ => supplied i
  intro l i fits
  have shown : ∃ popped s cached,
      (l.stream i).showAudio (l.rawAudioData i) = .ok (popped, s, cached) := by
    cases started : (l.stream i).audioStarted with
    | false =>
        exact ⟨_, _, _, Stream.showAudio_ok.mpr (Or.inr ⟨started, rfl, rfl, rfl⟩)⟩
    | true =>
        obtain ⟨a, rest, queued⟩ := List.exists_cons_of_ne_nil (fits started)
        exact ⟨_, _, _, Stream.showAudio_ok.mpr <|
          Or.inl ⟨started, a, rest, queued, rfl, rfl, rfl⟩⟩
  obtain ⟨popped, s, cached, shown⟩ := shown
  exact ⟨_, bind_ok.mpr ⟨_, shown, rfl⟩⟩

end AudioLoop

end GroupVoip
