import GroupVoip.AudioLockStep
import GroupVoip.TagEffects
import Mathlib.Data.List.TakeWhile

/-!
# Which cached pictures are valid

The cached entry of a slot comes from the front of its queue, its validity
from a decoder that has seen the whole queue.  The decoder's mark is the fold
of the queue over the mark at the front, so what stands in the queue behind
the cached entry decides whether the two agree.
-/

namespace GroupVoip

open Library.Runs

variable {V A β : Type}

/-! ## The mark behind a queue -/

def VideoRawData.isPicture (v : VideoRawData) : Prop :=
  v.sp ≠ .kSpsPps

def HasHeader (queue : List VideoRawData) : Prop :=
  ∃ v, v ∈ queue ∧ v.sp = .kSpsPps

instance (queue : List VideoRawData) : Decidable (HasHeader queue) :=
  inferInstanceAs (Decidable (∃ v, v ∈ queue ∧ v.sp = .kSpsPps))

/-- The time of the oldest picture behind the newest header. -/
def firstBehindHeader (queue : List VideoRawData) : Option UInt32 :=
  (queue.reverse.takeWhile fun v => v.sp ≠ .kSpsPps).getLast?.map
    VideoRawData.pts

theorem markAfter_isSome {mark : Option UInt32} {v : VideoRawData} :
    (markAfter mark v).isSome = true ↔ v.isPicture := by
  unfold markAfter VideoRawData.isPicture
  split
  · rename_i header
    simp [header]
  · rename_i picture
    cases mark <;> simp [picture]

/-- A header in the queue makes what came before it irrelevant. -/
theorem foldl_markAfter (queue : List VideoRawData) (mark : Option UInt32) :
    queue.foldl markAfter mark =
      if HasHeader queue then firstBehindHeader queue
      else mark.or (firstBehindHeader queue) := by
  induction queue using List.reverseRecOn with
  | nil => simp [HasHeader, firstBehindHeader]
  | append_singleton queue v inductionHypothesis =>
      rw [List.foldl_append, List.foldl_cons, List.foldl_nil,
        inductionHypothesis]
      by_cases header : v.sp = .kSpsPps
      · have hasHeader : HasHeader (queue ++ [v]) := ⟨v, by simp, header⟩
        rw [if_pos hasHeader]
        simp [markAfter, header, firstBehindHeader]
      · have last : firstBehindHeader (queue ++ [v]) =
            (firstBehindHeader queue).or (some v.pts) := by
          unfold firstBehindHeader
          rw [List.reverse_append, List.reverse_singleton,
            List.singleton_append, List.takeWhile_cons_of_pos (by simp [header]),
            List.getLast?_cons]
          cases (queue.reverse.takeWhile fun v => v.sp ≠ .kSpsPps).getLast? <;>
            rfl
        have same : HasHeader (queue ++ [v]) ↔ HasHeader queue := by
          simp [HasHeader, or_and_right, exists_or, header]
        rw [last, markAfter, if_neg header]
        by_cases hasHeader : HasHeader queue
        · rw [if_pos hasHeader, if_pos (same.mpr hasHeader)]
        · rw [if_neg hasHeader, if_neg (mt same.mp hasHeader), Option.or_assoc]

/-- There is a mark when the last entry is a picture. -/
theorem foldl_markAfter_isSome (queue : List VideoRawData)
    {mark : Option UInt32} {last : Option VideoRawData}
    (marked : mark.isSome = true ↔ ∃ w, last = some w ∧ w.isPicture) :
    (queue.foldl markAfter mark).isSome = true ↔
      ∃ w, queue.getLast?.or last = some w ∧ w.isPicture := by
  induction queue using List.reverseRecOn with
  | nil => simpa using marked
  | append_singleton queue v _ =>
      rw [List.foldl_append, List.foldl_cons, List.foldl_nil, markAfter_isSome]
      simp

/-- Without a header the first picture left is not due. -/
theorem firstBehindHeader_left {s : Stream V A} {videoPts first : UInt32}
    (noHeader : ¬ HasHeader (s.left videoPts))
    (behind : firstBehindHeader (s.left videoPts) = some first) :
    videoPts < first := by
  have whole : ((s.left videoPts).reverse.takeWhile fun v => v.sp ≠ .kSpsPps) =
      (s.left videoPts).reverse := by
    apply List.takeWhile_eq_self_iff.mpr
    intro v member
    have notHeader : v.sp ≠ .kSpsPps := by
      intro header
      exact noHeader ⟨v, List.mem_reverse.mp member, header⟩
    simpa using notHeader
  rw [firstBehindHeader, whole, List.getLast?_reverse] at behind
  obtain ⟨v, front, pts⟩ := Option.map_eq_some_iff.mp behind
  have notDue := List.head?_dropWhile_not
    (fun v : VideoRawData => decide (v.pts ≤ videoPts)) s.videoQueue
  unfold Stream.left at front
  rw [front] at notDue
  rw [← pts]
  simpa using notDue

/-! ## The invariant of a slot -/

/-- `last` is the entry popped last from the slot's queue. -/
structure SlotInStep (s : Stream V A) (cached last : Option VideoRawData) :
    Prop where
  marked : ∃ mark, s.videoDecoder.mark = s.videoQueue.foldl markAfter mark ∧
    (mark.isSome = true ↔ ∃ w, last = some w ∧ w.isPicture)
  queued : ∀ v, v ∈ s.videoQueue → v.isPicture → v.hasPlanes
  popped : ∀ w, last = some w → w.isPicture → w.hasPlanes
  cached : ∃ ss bIsValid, cached = last.map fun w => w.mark ss bIsValid

namespace SlotInStep

variable {s s' : Stream V A} {cached cached' last : Option VideoRawData}

theorem start (streamSource : StreamSource) :
    SlotInStep ({ streamSource := streamSource } : Stream V A) none none := by
  constructor
  · exact ⟨none, rfl, by simp⟩
  · intro v member
    cases member
  · intro w nothing
    cases nothing
  · exact ⟨.kDesktopStreamSource, false, rfl⟩

/-- What a slot is asked about is its video decoder and its video queue. -/
theorem of_same (inStep : SlotInStep s cached last)
    (decoder : s'.videoDecoder.mark = s.videoDecoder.mark)
    (queue : s'.videoQueue = s.videoQueue) : SlotInStep s' cached last := by
  constructor
  · rw [decoder, queue]
    exact inStep.marked
  · rw [queue]
    exact inStep.queued
  · exact inStep.popped
  · exact inStep.cached

theorem onTag {codecs : Codecs V A} {globalAudioTimestamp : UInt32}
    {globalAudioTimestamp' : UInt32} {tag : FLVTag}
    (inStep : SlotInStep s cached last)
    (done : s.onTag codecs globalAudioTimestamp tag =
      .ok (s', globalAudioTimestamp')) : SlotInStep s' cached last := by
  cases Stream.onTag_ok done with
  | silent clock parsed => exact inStep.of_same rfl rfl
  | undecoded clock au decoder v parsed isVideo decoded sp notHeader sameMark =>
      exact inStep.of_same sameMark rfl
  | audio clock au decoder frames parsed isAudio decoded =>
      exact inStep.of_same rfl rfl
  | video clock au decoder v valid parsed isVideo decoded ready sp pts planes
      marked =>
      obtain ⟨mark, same, picture⟩ := inStep.marked
      constructor
      · refine ⟨mark, ?_, picture⟩
        rw [List.foldl_append, ← same]
        exact marked
      · intro other member isPicture
        rcases List.mem_append.mp member with old | new
        · exact inStep.queued other old isPicture
        · rw [List.mem_singleton.mp new] at isPicture ⊢
          exact planes isPicture
      · exact inStep.popped
      · exact inStep.cached

theorem shown {videoPts : UInt32} {popped : List VideoRawData}
    (inStep : SlotInStep s cached last)
    (turn : Stream.VideoShown s cached videoPts popped s' cached') :
    SlotInStep s' cached' (popped.getLast?.or last) := by
  have cachedMark : ∃ ss bIsValid, cached' =
      (popped.getLast?.or last).map fun w => w.mark ss bIsValid := by
    obtain ⟨ss, bIsValid, cached⟩ := inStep.cached
    refine ⟨s.streamSource,
      s.videoStarted && s.videoDecoder.hasFirstFrameDecoded videoPts, ?_⟩
    rw [turn.shown, cached]
    cases popped.getLast? <;> cases last <;> rfl
  cases started : s.videoStarted with
  | false =>
      have taken : popped = [] := by
        rw [turn.taken, started]
        rfl
      have stream : s' = s := by
        rw [turn.stream, started]
        rfl
      subst taken stream
      constructor
      · simpa using inStep.marked
      · exact inStep.queued
      · simpa using inStep.popped
      · exact cachedMark
  | true =>
      have taken : popped = s.due videoPts := by rw [turn.taken, if_pos started]
      have stream : s' = { s with videoQueue := s.left videoPts } := by
        rw [turn.stream, if_pos started]
      have split := s.due_append_left videoPts
      subst taken stream
      constructor
      · obtain ⟨mark, same, picture⟩ := inStep.marked
        refine ⟨(s.due videoPts).foldl markAfter mark, ?_,
          foldl_markAfter_isSome _ picture⟩
        rw [← List.foldl_append, split]
        exact same
      · intro v member
        apply inStep.queued v
        rw [← split]
        exact List.mem_append_right _ member
      · intro w last isPicture
        rcases Option.or_eq_some_iff.mp last with newest | ⟨_, old⟩
        · apply inStep.queued w _ isPicture
          rw [← split]
          exact List.mem_append_left _ (List.mem_of_getLast? newest)
        · exact inStep.popped w old isPicture
      · exact cachedMark

end SlotInStep

/-! ## One video instant -/

/-- The queue and the decoder of a slot whose last popped entry is `w` give
the same answer for a video instant. -/
def Stream.AgreesOn (s : Stream V A) (videoPts : UInt32) (w : VideoRawData) :
    Prop :=
  if HasHeader (s.left videoPts) then
    w.isPicture ↔
      ∃ first, firstBehindHeader (s.left videoPts) = some first ∧
        first ≤ videoPts
  else w.isPicture → s.videoDecoder.firstFramePts ≤ videoPts

theorem VideoDecoder.firstFramePts_of_mark {d : VideoDecoder V}
    {first : UInt32} (marked : d.mark = some first) :
    d.firstFramePts = first := by
  unfold mark at marked
  split at marked
  · exact Option.some.inj marked
  · cases marked

/-- The decoder's answer is right about the last popped entry exactly when the
slot agrees. -/
theorem SlotInStep.agreesOn_iff {s : Stream V A}
    {cached last : Option VideoRawData} {videoPts : UInt32}
    {w : VideoRawData} (inStep : SlotInStep s cached last)
    (newest : (s.due videoPts).getLast?.or last = some w) :
    (s.videoDecoder.hasFirstFrameDecoded videoPts = true ↔ w.isPicture) ↔
      s.AgreesOn videoPts w := by
  obtain ⟨mark, same, picture⟩ := inStep.marked
  have atLast := foldl_markAfter_isSome (s.due videoPts) picture
  rw [← s.due_append_left videoPts, List.foldl_append] at same
  generalize (s.due videoPts).foldl markAfter mark = behind at same atLast
  rw [foldl_markAfter] at same
  have isPicture : behind.isSome = true ↔ w.isPicture := by
    rw [atLast, newest]
    simp
  rw [VideoDecoder.hasFirstFrameDecoded_iff, Stream.AgreesOn]
  by_cases header : HasHeader (s.left videoPts)
  · rw [if_pos header] at same ⊢
    rw [same]
    exact Iff.comm
  · rw [if_neg header] at same ⊢
    cases behind with
    | none =>
        have notPicture : ¬ w.isPicture := by
          rw [← isPicture]
          simp
        have notYet : ¬ ∃ first, s.videoDecoder.mark = some first ∧
            first ≤ videoPts := by
          intro decoded
          obtain ⟨first, marked, within⟩ := decoded
          rw [same, Option.none_or] at marked
          exact UInt32.not_lt.mpr within (firstBehindHeader_left header marked)
        simp [notPicture, notYet]
    | some first =>
        have isPicture : w.isPicture := isPicture.mp rfl
        have marked : s.videoDecoder.mark = some first := by
          rw [same, Option.some_or]
        rw [VideoDecoder.firstFramePts_of_mark marked, marked]
        simp [isPicture]

namespace MixCoder

structure VideoTaken (m m' : MixCoder V A β) (videoPts : UInt32)
    (out : Output) : Prop where
  shown : ∀ i, Stream.VideoShown (m.streams.stream i) (m.rawVideoData i)
    videoPts (out.poppedVideo i) (m'.streams.stream i) (m'.rawVideoData i)
  mixes : ∀ mix, mix ∈ out.videoMixes → mix.rawData = m'.rawVideoData
  instant : out.instant = .video videoPts

theorem VideoTaken.audio {m m' : MixCoder V A β} {videoPts : UInt32}
    {out : Output} (taken : VideoTaken m m' videoPts out) (i : Slot) :
    (m'.streams.stream i).audioStarted = (m.streams.stream i).audioStarted ∧
      (m'.streams.stream i).audioQueue = (m.streams.stream i).audioQueue := by
  rw [(taken.shown i).stream]
  split <;> exact ⟨rfl, rfl⟩

theorem mixVideoInstant_calls (backend : Backend β) (b : β)
    (l : VideoLoop V A) (videoPts : UInt32) :
    ∀ mix, mix ∈ (mixVideoInstant backend b l videoPts).2.1 →
      mix = { rawData := l.rawVideoData, totalStreams := l.totalStreams } := by
  intro mix member
  unfold mixVideoInstant at member
  split at member
  · simp only at member
    split at member
    · rw [List.mem_singleton.mp member]
    · rw [List.mem_singleton.mp member]
  · cases member

theorem videoOutput_taken {backend : Backend β} {m m' : MixCoder V A β}
    {videoPts : UInt32} {out : Output}
    (taken : m.videoOutput backend videoPts = (m', out)) :
    VideoTaken m m' videoPts out := by
  have shown := VideoLoop.finished videoPts
    { stream := m.streams.stream, rawVideoData := m.rawVideoData }
  unfold videoOutput at taken
  generalize Streams.slots.foldl (VideoLoop.turn videoPts) _ = l at taken shown
  have mixes := mixVideoInstant_calls backend m.output l videoPts
  cases taken
  refine { shown := shown, mixes := ?_, instant := rfl }
  intro mix member
  rw [mixes mix member]

theorem getOutput_video {backend : Backend β} {m m' : MixCoder V A β}
    {out : Output} {videoPts : UInt32} :
    (m.getOutput backend = .ok (m', out) ∧ out.instant = .video videoPts) ↔
      ∃ streams, m.streams.nextInstant = .ok (.video videoPts, streams) ∧
        (m.setStreams streams).videoOutput backend videoPts = (m', out) := by
  constructor
  · intro call
    obtain ⟨taken, isVideo⟩ := call
    obtain ⟨instant, streams, decided, carriedOut⟩ := getOutput_ok taken
    cases instant with
    | none =>
        rw [carriedOut.2] at isVideo
        cases isVideo
    | audio audioPts =>
        rw [(audioOutput_ok carriedOut).2] at isVideo
        cases isVideo
    | video otherPts =>
        rw [(videoOutput_audio carriedOut).1] at isVideo
        cases isVideo
        exact ⟨streams, decided, carriedOut⟩
  · intro call
    obtain ⟨streams, decided, carriedOut⟩ := call
    have taken : m.getOutput backend = .ok (m', out) :=
      bind_ok.mpr ⟨_, decided, congrArg Except.ok carriedOut⟩
    exact ⟨taken, (videoOutput_audio carriedOut).1⟩

end MixCoder

/-! ## Over a run -/

namespace Session

def lastPopped (session : Session V A β) (i : Slot) : Option VideoRawData :=
  (session.outputs.flatMap fun out => out.poppedVideo i).getLast?

theorem lastPopped_append (session : Session V A β) (m : MixCoder V A β)
    (out : Output) (i : Slot) :
    ({ mixCoder := m, outputs := session.outputs ++ [out] } :
        Session V A β).lastPopped i =
      (out.poppedVideo i).getLast?.or (session.lastPopped i) := by
  simp [lastPopped]

def InStep (session : Session V A β) : Prop :=
  ∀ i, SlotInStep (session.mixCoder.streams.stream i)
    (session.mixCoder.rawVideoData i) (session.lastPopped i)

end Session

/-- A slot by slot property that neither a mask, nor a source, nor a tag of the
slot destroys is kept by every effect of the readers. -/
theorem Streams.act_kept {codecs : Codecs V A}
    (Inv : Slot → Stream V A → Prop)
    (online : ∀ i s online, Inv i s → Inv i (s.setOnline online))
    (source : ∀ i s source, Inv i s → Inv i { s with streamSource := source })
    (onTag : ∀ i s s' globalAudioTimestamp globalAudioTimestamp' tag,
      Inv i s →
      s.onTag codecs globalAudioTimestamp tag =
        .ok (s', globalAudioTimestamp') → Inv i s')
    {p p' : Streams V A} {call : StreamCall}
    (holds : ∀ i, Inv i (p.stream i))
    (acted : p.act codecs call = .ok p') : ∀ i, Inv i (p'.stream i) := by
  intro i
  have updated : ∀ (id : Slot) (s : Stream V A), Inv id s →
      Inv i (Function.update p.stream id s i) := by
    intro id s keeps
    have all := (Function.forall_update_iff p.stream Inv).mpr
      ⟨keeps, fun j _ => holds j⟩
    exact all i
  cases call with
  | streamMask streamMask =>
      cases acted
      exact online i _ _ (holds i)
  | streamSource id newSource =>
      cases acted
      exact updated id _ (source id _ newSource (holds id))
  | flvTag id tag =>
      obtain ⟨⟨s, globalAudioTimestamp⟩, done, rest⟩ := bind_ok.mp acted
      cases rest
      exact updated id s (onTag id _ _ _ _ tag (holds id) done)

theorem Session.InStep.step {codecs : Codecs V A} {backend : Backend β}
    {session session' : Session V A β} {call : MixCall}
    (inStep : session.InStep)
    (stepped : session.step codecs backend call = .ok session') :
    session'.InStep := by
  cases call with
  | newInput inputBuf =>
      obtain ⟨mixCoder, fed, rest⟩ := bind_ok.mp stepped
      obtain ⟨flvSegParser, read, same⟩ := bind_ok.mp fed
      cases same
      cases rest
      refine readData_invariant
        (fun p : Streams V A => ∀ i, SlotInStep (p.stream i)
          (session.mixCoder.rawVideoData i) (session.lastPopped i))
        ?_ inStep read
      intro p effect p' holds acted
      refine Streams.act_kept
        (fun i s => SlotInStep s (session.mixCoder.rawVideoData i)
          (session.lastPopped i)) ?_ ?_ ?_ holds acted
      · intro i s online slot
        exact slot.of_same rfl rfl
      · intro i s source slot
        exact slot.of_same rfl rfl
      · intro i s s' _ _ tag slot done
        exact slot.onTag done
  | getOutput =>
      obtain ⟨⟨m', out⟩, taken, rest⟩ := bind_ok.mp stepped
      obtain ⟨instant, streams, decided, carriedOut⟩ :=
        MixCoder.getOutput_ok taken
      have sameStream := Streams.nextInstant_stream decided
      cases rest
      intro i
      have slot := inStep i
      rw [Session.lastPopped_append]
      cases instant with
      | none =>
          obtain ⟨sameMixer, nothing⟩ := carriedOut
          subst sameMixer nothing
          simpa [sameStream] using slot
      | audio audioPts =>
          have took := (MixCoder.audioOutput_ok carriedOut).1
          rw [took.noVideo, took.cachedVideo]
          cases started : (streams.stream i).audioStarted with
          | true =>
              obtain ⟨_, _, _, _, left, _⟩ := took.started started
              rw [left, MixCoder.setStreams_streams, sameStream]
              exact slot.of_same rfl rfl
          | false =>
              have left := (took.notStarted started).2.1
              rw [left, MixCoder.setStreams_streams, sameStream]
              exact slot
      | video videoPts =>
          have took := (MixCoder.videoOutput_taken carriedOut).shown i
          rw [MixCoder.setStreams_streams, sameStream] at took
          exact slot.shown took

/-- A `getOutput` call with a video instant marks an entry valid exactly when
its slot is started and the entry popped last is a picture, and what it marks
valid has its planes. -/
def VideoValidityExact (backend : Backend β) (session : Session V A β) :
    Prop :=
  ∀ m' out videoPts, session.mixCoder.getOutput backend = .ok (m', out) →
    out.instant = .video videoPts →
    (∀ i, videoValid (m'.rawVideoData i) = true ↔
      (session.mixCoder.streams.stream i).videoStarted = true ∧
        ∃ w, (out.poppedVideo i).getLast?.or (session.lastPopped i) = some w ∧
          w.isPicture) ∧
    (∀ i v, m'.rawVideoData i = some v → v.rawVideoSettings.bIsValid = true →
      v.hasPlanes) ∧
    ∀ mix, mix ∈ out.videoMixes → mix.rawData = m'.rawVideoData

/-- At a video instant the queue and the decoder of every started slot that
has an entry to show give the same answer. -/
def QueuesAgree (session : Session V A β) : Prop :=
  ∀ videoPts streams,
    session.mixCoder.streams.nextInstant = .ok (.video videoPts, streams) →
    ∀ i, (session.mixCoder.streams.stream i).videoStarted = true →
      ∀ w, ((session.mixCoder.streams.stream i).due videoPts).getLast?.or
          (session.lastPopped i) = some w →
        (session.mixCoder.streams.stream i).AgreesOn videoPts w

theorem Stream.VideoShown.valid_iff {s s' : Stream V A}
    {cached cached' : Option VideoRawData} {videoPts : UInt32}
    {popped : List VideoRawData}
    (turn : Stream.VideoShown s cached videoPts popped s' cached') :
    videoValid cached' = true ↔
      s.videoStarted = true ∧
        s.videoDecoder.hasFirstFrameDecoded videoPts = true ∧
        (popped.getLast?.or cached).isSome = true := by
  rw [turn.shown]
  cases popped.getLast?.or cached <;> simp [videoValid, VideoRawData.mark]

theorem SlotInStep.isSome_shown {s : Stream V A}
    {cached last : Option VideoRawData} (inStep : SlotInStep s cached last)
    (popped : List VideoRawData) :
    (popped.getLast?.or cached).isSome = true ↔
      ∃ w, popped.getLast?.or last = some w := by
  obtain ⟨ss, bIsValid, cached⟩ := inStep.cached
  rw [cached]
  cases popped.getLast? <;> cases last <;> simp

theorem Stream.VideoShown.exact_iff {s s' : Stream V A}
    {cached cached' last : Option VideoRawData} {videoPts : UInt32}
    {popped : List VideoRawData} (inStep : SlotInStep s cached last)
    (turn : Stream.VideoShown s cached videoPts popped s' cached') :
    (videoValid cached' = true ↔
        s.videoStarted = true ∧
          ∃ w, popped.getLast?.or last = some w ∧ w.isPicture) ↔
      (s.videoStarted = true →
        ∀ w, (s.due videoPts).getLast?.or last = some w →
          s.AgreesOn videoPts w) := by
  rw [turn.valid_iff, inStep.isSome_shown]
  cases started : s.videoStarted with
  | false => simp
  | true =>
      have taken : popped = s.due videoPts := by rw [turn.taken, if_pos started]
      rw [taken]
      constructor
      · intro same _ w newest
        rw [← inStep.agreesOn_iff newest]
        simpa [newest] using same
      · intro agrees
        cases newest : (s.due videoPts).getLast?.or last with
        | none => simp
        | some w =>
            have decided :=
              (inStep.agreesOn_iff newest).mpr (agrees rfl w newest)
            simpa using decided

/-- An entry that is marked valid and is a picture has its planes. -/
theorem SlotInStep.planes {s : Stream V A} {cached last : Option VideoRawData}
    {v : VideoRawData} (inStep : SlotInStep s cached last)
    (isCached : cached = some v)
    (picture : ∃ w, last = some w ∧ w.isPicture) : v.hasPlanes := by
  obtain ⟨w, newest, isPicture⟩ := picture
  obtain ⟨ss, bIsValid, cached⟩ := inStep.cached
  rw [isCached, newest] at cached
  cases cached
  exact inStep.popped w newest isPicture

theorem videoValidityExact_iff {backend : Backend β}
    {session : Session V A β} (inStep : session.InStep) :
    VideoValidityExact backend session ↔ QueuesAgree session := by
  constructor
  · intro exact videoPts streams decided i
    generalize output :
      (session.mixCoder.setStreams streams).videoOutput backend videoPts = taken
    obtain ⟨m', out⟩ := taken
    have called := MixCoder.getOutput_video.mpr ⟨streams, decided, output⟩
    have turn := (MixCoder.videoOutput_taken output).shown i
    rw [MixCoder.setStreams_streams, Streams.nextInstant_stream decided] at turn
    exact (turn.exact_iff (inStep i)).mp
      ((exact m' out videoPts called.1 called.2).1 i)
  · intro agree m' out videoPts taken isVideo
    obtain ⟨streams, decided, output⟩ :=
      MixCoder.getOutput_video.mp ⟨taken, isVideo⟩
    have took := MixCoder.videoOutput_taken output
    have turn (i : Slot) := took.shown i
    simp only [MixCoder.setStreams_streams,
      Streams.nextInstant_stream decided] at turn
    have valid (i : Slot) := ((turn i).exact_iff (inStep i)).mpr
      (agree videoPts streams decided i)
    refine ⟨valid, ?_, took.mixes⟩
    intro i v cached isValid
    have picture := ((valid i).mp (by simp [cached, videoValid, isValid])).2
    exact ((inStep i).shown (turn i)).planes cached picture

/-- In a run of `newInput` and `getOutput` calls validity is exact at every
`getOutput` call if and only if queues and decoders agree at every one. -/
theorem videoValidity_exact_iff (codecs : Codecs V A) (backend : Backend β)
    (streamSource : Slot → StreamSource) (output : β)
    (calls : List MixCall) :
    EveryStep (Session.step codecs backend)
        (fun session call => call = .getOutput →
          VideoValidityExact backend session)
        (Session.start streamSource output) calls ↔
      EveryStep (Session.step codecs backend)
        (fun session call => call = .getOutput → QueuesAgree session)
        (Session.start streamSource output) calls := by
  refine everyStep_congr Session.InStep ?_ ?_ ?_
  · intro session call inStep
    rw [videoValidityExact_iff inStep]
  · intro session call next inStep _ stepped
    exact inStep.step stepped
  · intro i
    exact SlotInStep.start (streamSource i)

/-- A second header reaches the decoder while the picture before it is still
queued. -/
def headerBehindPicture : List MixCall :=
  [.newInput (audioSample 0), .newInput (headerSample 0 1),
    .newInput (pictureSample 10 5), .newInput (headerSample 11 2),
    .newInput (audioSample 20), .getOutput, .getOutput]

/-- The next call takes the picture at 10 ms, and marks it invalid. -/
theorem videoValidity_inexact_headerBehindPicture :
    ¬ EveryStep (Session.step Codecs.echo Backend.silent)
      (fun session call => call = .getOutput →
        VideoValidityExact Backend.silent session)
      (Session.start (fun _ => .kDesktopStreamSource) ())
      (headerBehindPicture ++ [.getOutput]) := by
  intro holds
  obtain ⟨session, reached⟩ := exists_ok
    (x := run (Session.step Codecs.echo Backend.silent)
      (Session.start (fun _ => .kDesktopStreamSource) ()) headerBehindPicture)
    (by decide +kernel)
  have exact := everyStep_iff_forall_prefix.mp holds headerBehindPicture
    .getOutput [] session rfl reached rfl
  have shown : (session.mixCoder.getOutput Backend.silent).map (fun taken =>
      (taken.2.instant, videoValid (taken.1.rawVideoData (Slot.ofNat 0)),
        (session.mixCoder.streams.stream (Slot.ofNat 0)).videoStarted,
        (taken.2.poppedVideo (Slot.ofNat 0)).map VideoRawData.sp)) =
      .ok (.video 10, false, true, [.kRawData]) := by
    have whole : (run (Session.step Codecs.echo Backend.silent)
        (Session.start (fun _ => .kDesktopStreamSource) ())
        headerBehindPicture).bind (fun session =>
          (session.mixCoder.getOutput Backend.silent).map fun taken =>
          (taken.2.instant, videoValid (taken.1.rawVideoData (Slot.ofNat 0)),
            (session.mixCoder.streams.stream (Slot.ofNat 0)).videoStarted,
            (taken.2.poppedVideo (Slot.ofNat 0)).map VideoRawData.sp)) =
        .ok (.video 10, false, true, [.kRawData]) := by
      decide +kernel
    rw [reached] at whole
    exact whole
  obtain ⟨⟨m', out⟩, taken, seen⟩ := map_ok.mp shown
  simp only [Prod.mk.injEq] at seen
  obtain ⟨instant, invalid, started, popped⟩ := seen
  have slot := (exact m' out 10 taken instant).1 (Slot.ofNat 0)
  obtain ⟨w, queue, picture⟩ := List.map_eq_singleton_iff.mp popped
  rw [invalid, queue, started] at slot
  simp [VideoRawData.isPicture, picture] at slot

end GroupVoip
