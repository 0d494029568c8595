import GroupVoip.QueueOrder
import GroupVoip.VideoValidity

/-!
# The order of the audio output

An audio instant takes the smallest time at the front of the started queues
and one frame from each of them.  Sorted queues therefore stay ahead of the
output; only a message that finds its queue empty, or its slot not started,
can put a frame in front that is behind it.
-/

namespace GroupVoip

open Library.Runs Library.WireBytes

variable {V A β : Type}

/-! ## The time of an audio instant -/

namespace Streams

/-- The smallest time at the front of the started queues, and that of the loop
so far. -/
theorem scanAudio_time {p : Streams V A} {indexes : List Slot} :
    ∀ {audioTimestamp : UInt32} {totalStreams : Nat},
      (p.scanAudio indexes audioTimestamp totalStreams).1 = true →
      (p.scanAudio indexes audioTimestamp totalStreams).2.1 ≤ audioTimestamp ∧
      (∀ i ∈ indexes, (p.stream i).audioStarted = true →
        ∀ a ∈ (p.stream i).audioQueue.head?,
          (p.scanAudio indexes audioTimestamp totalStreams).2.1 ≤ a.pts) ∧
      ((p.scanAudio indexes audioTimestamp totalStreams).2.1 = audioTimestamp ∨
        ∃ i ∈ indexes, (p.stream i).audioStarted = true ∧
          ∃ a ∈ (p.stream i).audioQueue.head?,
            (p.scanAudio indexes audioTimestamp totalStreams).2.1 = a.pts) := by
  induction indexes with
  | nil =>
      intro audioTimestamp totalStreams _
      simp [scanAudio]
  | cons first rest inductionHypothesis =>
      intro audioTimestamp totalStreams finished
      rw [scanAudio] at finished ⊢
      by_cases started : (p.stream first).audioStarted = true
      · rw [if_pos started] at finished ⊢
        rcases queued : (p.stream first).audioQueue with _ | ⟨front, others⟩
        · rw [queued] at finished
          cases finished
        · rw [queued] at finished
          simp only at finished ⊢
          rcases inductionHypothesis finished with ⟨below, fronts, attained⟩
          generalize (p.scanAudio rest _ (totalStreams + 1)).2.1 = time
            at below fronts attained ⊢
          have smaller : (if front.pts < audioTimestamp then front.pts
              else audioTimestamp) ≤ audioTimestamp ∧
              (if front.pts < audioTimestamp then front.pts
                else audioTimestamp) ≤ front.pts := by
            split
            · rename_i earlier
              exact ⟨UInt32.le_of_lt earlier, UInt32.le_refl _⟩
            · rename_i later
              exact ⟨UInt32.le_refl _, UInt32.not_lt.mp later⟩
          refine ⟨UInt32.le_trans below smaller.1, ?_, ?_⟩
          · intro i member startedToo a isFront
            rcases List.mem_cons.mp member with rfl | later
            · rw [queued] at isFront
              cases isFront
              exact UInt32.le_trans below smaller.2
            · exact fronts i later startedToo a isFront
          · rcases attained with kept | ⟨i, member, startedToo, a, isFront, same⟩
            · rw [kept]
              split
              · refine Or.inr ⟨first, List.mem_cons_self, started, front, ?_, rfl⟩
                rw [queued]
                rfl
              · exact Or.inl rfl
            · exact Or.inr ⟨i, List.mem_cons_of_mem first member, startedToo, a,
                isFront, same⟩
      · rw [if_neg started] at finished ⊢
        rcases inductionHypothesis finished with ⟨below, fronts, attained⟩
        refine ⟨below, ?_, ?_⟩
        · intro i member startedToo a isFront
          rcases List.mem_cons.mp member with rfl | later
          · exact absurd startedToo started
          · exact fronts i later startedToo a isFront
        · rcases attained with kept | ⟨i, member, startedToo, a, isFront, same⟩
          · exact Or.inl kept
          · exact Or.inr ⟨i, List.mem_cons_of_mem first member, startedToo, a,
              isFront, same⟩

/-- The time of the next audio instant is the smallest of the fronts. -/
theorem isNextAudioStreamReady_time {p : Streams V A} {audioPts : UInt32}
    (ready : p.isNextAudioStreamReady = some audioPts) :
    (∀ i, (p.stream i).audioStarted = true →
      ∀ a ∈ (p.stream i).audioQueue.head?, audioPts ≤ a.pts) ∧
    ∃ i, (p.stream i).audioStarted = true ∧
      ∃ a ∈ (p.stream i).audioQueue.head?, audioPts = a.pts := by
  have scanned : (p.scanAudio slots MAX_U32 0).1 = true ∧
      (p.scanAudio slots MAX_U32 0).2.1 = audioPts := by
    simp only [isNextAudioStreamReady] at ready
    split at ready
    · rename_i both
      exact ⟨(Bool.and_eq_true _ _ ▸ both).2, Option.some.inj ready⟩
    · cases ready
  rcases scanAudio_time scanned.1 with ⟨_, fronts, attained⟩
  rw [scanned.2] at fronts attained
  refine ⟨fun i => fronts i (mem_slots i), ?_⟩
  rcases attained with sentinel | ⟨i, _, started, a, isFront, same⟩
  · have audioReady : p.AudioReady := by
      rw [← isNextAudioStreamReady_isSome, ready]
      rfl
    rcases audioReady with ⟨⟨i, started⟩, supplied⟩
    rcases List.exists_cons_of_ne_nil (supplied i started) with
      ⟨a, others, queued⟩
    have isFront : a ∈ (p.stream i).audioQueue.head? := by
      rw [queued]
      rfl
    refine ⟨i, started, a, isFront, ?_⟩
    apply UInt32.le_antisymm (fronts i (mem_slots i) started a isFront)
    rw [sentinel]
    have bound := a.pts.toNat_lt
    rw [UInt32.le_iff_toNat_le]
    exact Nat.le_of_lt_succ bound
  · exact ⟨i, started, a, isFront, same⟩

theorem nextInstant_audio {p p' : Streams V A} {audioPts : UInt32}
    (decided : p.nextInstant = .ok (.audio audioPts, p')) :
    p.isNextAudioStreamReady = some audioPts := by
  simp only [nextInstant] at decided
  cases ready : p.isNextAudioStreamReady with
  | none =>
      rw [ready] at decided
      cases decided
  | some readyPts =>
      rw [ready] at decided
      rcases bind_ok.mp decided with ⟨⟨video, asked⟩, _, rest⟩
      cases video with
      | none =>
          cases rest
          rfl
      | some videoPts =>
          have chosen := congrArg Prod.fst (Except.ok.inj rest)
          simp only at chosen
          split at chosen
          · cases chosen
            rfl
          · cases chosen

end Streams

/-! ## Messages that join in time -/

/-- A message makes its slot a started one.  What it leaves in front of the
queue, if that was not in front of a started queue before, is not behind the
output: the frame left over, or the first one stamped. -/
def Stream.JoinsInTime (codecs : Codecs V A) (s : Stream V A)
    (globalAudioTimestamp : UInt32) (last : Option UInt32) (tag : FLVTag) :
    Prop :=
  ∀ timestamp body,
    readTag s.clock.curSpsPps tag = .ok (timestamp, some body) →
    body.frameReady = true → tag.curStreamType = .kAudioStreamType →
    match s.audioQueue with
    | a :: _ => s.audioStarted = false → NotBefore last a.pts
    | [] => 0 < s.audioFrames codecs body.accessUnit →
        NotBefore last (s.audioTsMapper.getNextTimestamp
          (s.clock.audioTime globalAudioTimestamp body.accessUnit.sp
            timestamp)).1

/-- The front of a started queue is not behind the output. -/
def Stream.Ahead (s : Stream V A) (last : Option UInt32) : Prop :=
  s.audioStarted = true → ∀ a ∈ s.audioQueue.head?, NotBefore last a.pts

namespace Streams

def Ahead (p : Streams V A) (last : Option UInt32) : Prop :=
  ∀ i, (p.stream i).Ahead last

def JoinsInTime (codecs : Codecs V A) (last : Option UInt32)
    (p : Streams V A) : StreamCall → Prop
  | .flvTag id tag =>
      (p.stream id).JoinsInTime codecs p.globalAudioTimestamp last tag
  | _ => True

end Streams

namespace Stream

theorem ahead_of_same {s s' : Stream V A} {last : Option UInt32}
    (ahead : s.Ahead last) (queue : s'.audioQueue = s.audioQueue)
    (started : s'.audioStarted = true → s.audioStarted = true) :
    s'.Ahead last := by
  intro startedAfter
  rw [queue]
  exact ahead (started startedAfter)

theorem joinsInTime_video {codecs : Codecs V A} {s : Stream V A}
    {globalAudioTimestamp : UInt32} {last : Option UInt32} {tag : FLVTag}
    {clock : FLVClock} {au : AccessUnit}
    (parsed : parseNextFLVFrame s.clock globalAudioTimestamp tag =
      .ok (clock, some au)) (isVideo : au.st = .kVideoStreamType) :
    s.JoinsInTime codecs globalAudioTimestamp last tag := by
  rcases delivered parsed with ⟨timestamp, body, _, _, st, message⟩
  intro _ _ _ _ isAudio
  rw [message] at isVideo
  rw [st, isVideo] at isAudio
  cases isAudio

theorem setOnline_ahead {s : Stream V A} {last : Option UInt32}
    (ahead : s.Ahead last) (online : Bool) : (s.setOnline online).Ahead last := by
  apply ahead_of_same ahead
  · rfl
  · intro started
    simp only [audioStarted, setOnline, maskStatus] at started ⊢
    cases online with
    | false => cases started
    | true =>
        simp only [if_true] at started
        split at started
        · cases started
        · exact started

/-- A tag keeps the front of its slot ahead of the output exactly when it joins
in time. -/
theorem onTag_ahead {codecs : Codecs V A} {s s' : Stream V A}
    {globalAudioTimestamp globalAudioTimestamp' : UInt32}
    {last : Option UInt32} {tag : FLVTag} (ahead : s.Ahead last)
    (done : s.onTag codecs globalAudioTimestamp tag =
      .ok (s', globalAudioTimestamp')) :
    s'.Ahead last ↔ s.JoinsInTime codecs globalAudioTimestamp last tag := by
  cases onTag_ok done with
  | silent clock parsed =>
      refine iff_of_true (ahead_of_same ahead rfl id) ?_
      intro timestamp body read ready
      rw [not_ready parsed read] at ready
      cases ready
  | undecoded clock au decoder v parsed isVideo =>
      refine iff_of_true (ahead_of_same ahead rfl id) ?_
      exact joinsInTime_video parsed isVideo
  | video clock au decoder v valid parsed isVideo =>
      refine iff_of_true (ahead_of_same ahead rfl id) ?_
      exact joinsInTime_video parsed isVideo
  | audio clock au decoder frames parsed isAudio decoded =>
      rcases audioMessage parsed isAudio decoded with
        ⟨timestamp, body, read, ready, audioTag, counted, time⟩
      have joins : s.JoinsInTime codecs globalAudioTimestamp last tag ↔
          match s.audioQueue with
          | a :: _ => s.audioStarted = false → NotBefore last a.pts
          | [] => 0 < frames.length →
              NotBefore last (s.audioTsMapper.getNextTimestamp au.pts).1 := by
        rw [← counted, time]
        constructor
        · intro joins
          exact joins timestamp body read ready audioTag
        · intro joins timestamp' body' readToo _ _
          rw [read] at readToo
          cases readToo
          exact joins
      rw [joins]
      rcases queued : s.audioQueue with _ | ⟨a, rest⟩
      · cases frames with
        | nil => simp [Ahead, stampFrames]
        | cons frame others =>
            simp [Ahead, stampFrames, audioStarted]
      · cases started : s.audioStarted with
        | true =>
            have front := ahead started a (by rw [queued]; rfl)
            simp [Ahead, front]
        | false => simp [Ahead, audioStarted]

end Stream

namespace Streams

variable {codecs : Codecs V A} {p p' : Streams V A} {last : Option UInt32}

theorem act_ahead {call : StreamCall} (ahead : p.Ahead last)
    (acted : p.act codecs call = .ok p') :
    p'.Ahead last ↔ p.JoinsInTime codecs last call := by
  cases call with
  | streamMask streamMask =>
      cases acted
      exact iff_of_true (fun i => Stream.setOnline_ahead (ahead i) _) trivial
  | streamSource id source =>
      cases acted
      refine iff_of_true ?_ trivial
      exact (forall_update (P := fun s => s.Ahead last)
        fun i _ => ahead i).mpr (ahead id)
  | flvTag id tag =>
      rcases onTag_slots acted with ⟨s, globalAudioTimestamp, done, updated⟩
      rw [Ahead, updated,
        forall_update (P := fun s => s.Ahead last) fun i _ => ahead i]
      exact Stream.onTag_ahead (ahead id) done

/-- An audio instant is not before the output, and the fronts that it leaves
are not before it. -/
theorem ahead_audio {m m' : MixCoder V A β} {out : Output} {audioPts : UInt32}
    (took : MixCoder.AudioTaken m m' out)
    (ready : p.isNextAudioStreamReady = some audioPts)
    (same : m.streams.stream = p.stream)
    (sorted : ∀ i, InTimeOrder (m.streams.stream i).audioTimes)
    (ahead : m.streams.Ahead last) :
    NotBefore last audioPts ∧ m'.streams.Ahead (some audioPts) := by
  have least := isNextAudioStreamReady_time ready
  rw [← same] at least
  rcases least with ⟨fronts, i, started, a, isFront, attained⟩
  constructor
  · rw [attained]
    exact ahead i started a isFront
  · intro j startedAfter b isNext
    have started : (m.streams.stream j).audioStarted = true := by
      cases status : (m.streams.stream j).audioStarted with
      | true => rfl
      | false =>
          rw [(took.notStarted status).2.1, status] at startedAfter
          cases startedAfter
    rcases took.started started with ⟨front, rest, queued, _, left, _⟩
    rw [left] at isNext
    intro l isLast
    cases isLast
    have first : audioPts ≤ front.pts := by
      apply fronts j started
      rw [queued]
      rfl
    have order := sorted j
    rw [Stream.audioTimes, queued, List.map_cons, InTimeOrder,
      List.pairwise_cons] at order
    apply UInt32.le_trans first
    apply order.1
    exact List.mem_map_of_mem (List.mem_of_mem_head? isNext)

end Streams

/-! ## Over a run -/

def Output.audioPts (out : Output) : Option UInt32 :=
  match out.instant with
  | .audio audioPts => some audioPts
  | _ => none

namespace Session

/-- The times of the audio instants so far. -/
def audioPtss (session : Session V A β) : List UInt32 :=
  session.outputs.filterMap Output.audioPts

def AudioSorted (session : Session V A β) : Prop :=
  ∀ i, InTimeOrder (session.mixCoder.streams.stream i).audioTimes

def Ahead (session : Session V A β) : Prop :=
  session.mixCoder.streams.Ahead session.audioPtss.getLast?

/-- The audio messages in an input join in time. -/
def JoinsInTime (codecs : Codecs V A) (session : Session V A β) :
    MixCall → Prop
  | .newInput inputBuf =>
      ∀ readers calls,
        session.mixCoder.flvSegParser.readers.calls inputBuf.data =
          .ok (readers, calls) →
        EveryStep (Streams.act codecs)
          (Streams.JoinsInTime codecs session.audioPtss.getLast?)
          session.mixCoder.streams calls
  | .getOutput => True

variable {codecs : Codecs V A} {backend : Backend β}
  {session session' : Session V A β}

theorem ahead_newInput {inputBuf : SmartBuffer}
    (joins : session.JoinsInTime codecs (.newInput inputBuf))
    (stepped : session.step codecs backend (.newInput inputBuf) = .ok session')
    (ahead : session.Ahead) :
    session'.audioPtss = session.audioPtss ∧ session'.Ahead := by
  rcases bind_ok.mp stepped with ⟨mixCoder, fed, rest⟩
  rcases bind_ok.mp fed with ⟨flvSegParser, read, same⟩
  cases same
  cases rest
  refine ⟨rfl, ?_⟩
  rw [FLVSegmentParser.readData, InputSide.readData_eq_readBytes] at read
  rcases readBytes_ok.mp read with ⟨calls, called, ran⟩
  exact run_invariant_of_everyStep
    (fun p : Streams V A => p.Ahead session.audioPtss.getLast?)
    (fun p call p' ahead joins acted =>
      (Streams.act_ahead ahead acted).mpr joins)
    ahead (joins _ _ called) ran

theorem ahead_getOutput (sorted : session.AudioSorted)
    (stepped : session.step codecs backend .getOutput = .ok session')
    (ordered : InTimeOrder session.audioPtss) (ahead : session.Ahead) :
    InTimeOrder session'.audioPtss ∧ session'.Ahead := by
  rcases bind_ok.mp stepped with ⟨⟨mixCoder, out⟩, taken, rest⟩
  cases rest
  rcases MixCoder.getOutput_ok taken with
    ⟨instant, streams, decided, carriedOut⟩
  have same := Streams.nextInstant_stream decided
  have aheadToo : (session.mixCoder.setStreams streams).streams.Ahead
      session.audioPtss.getLast? := by
    rw [MixCoder.setStreams_streams, Streams.Ahead, same]
    exact ahead
  have unchanged (noAudio : out.audioPts = none) :
      ({ mixCoder := mixCoder, outputs := session.outputs ++ [out] } :
        Session V A β).audioPtss = session.audioPtss := by
    simp [audioPtss, noAudio]
  cases instant with
  | none =>
      rcases carriedOut with ⟨rfl, rfl⟩
      have noAudio : ({} : Output).audioPts = none := rfl
      rw [Ahead, unchanged noAudio]
      exact ⟨ordered, aheadToo⟩
  | video videoPts =>
      have took := MixCoder.videoOutput_taken carriedOut
      have noAudio : out.audioPts = none := by
        rw [Output.audioPts, took.instant]
      rw [Ahead, unchanged noAudio]
      refine ⟨ordered, fun i => ?_⟩
      exact Stream.ahead_of_same (aheadToo i) (took.audio i).2
        fun started => (took.audio i).1 ▸ started
  | audio audioPts =>
      rcases MixCoder.audioOutput_ok carriedOut with ⟨took, isAudio⟩
      have ready := Streams.nextInstant_audio decided
      have sortedToo : ∀ i, InTimeOrder ((session.mixCoder.setStreams
          streams).streams.stream i).audioTimes := by
        rw [MixCoder.setStreams_streams, same]
        exact sorted
      rcases Streams.ahead_audio took ready same sortedToo aheadToo with
        ⟨later, aheadAfter⟩
      have appended : ({ mixCoder := mixCoder
                         outputs := session.outputs ++ [out] } :
          Session V A β).audioPtss = session.audioPtss ++ [audioPts] := by
        simp [audioPtss, Output.audioPts, isAudio]
      rw [Ahead, appended, List.getLast?_concat]
      exact ⟨inTimeOrder_append_singleton.mpr ⟨ordered, later⟩, aheadAfter⟩

instance (session : Session V A β) : Decidable session.AudioSorted :=
  inferInstanceAs (Decidable (∀ _i : Fin MAX_XCODING_INSTANCES, _))

/-- Before the first audio instant every message joins in time. -/
theorem joinsInTime_fresh {session : Session V A β} (fresh : session.outputs = [])
    (inputBuf : SmartBuffer) :
    session.JoinsInTime codecs (.newInput inputBuf) := by
  have noOutput : session.audioPtss.getLast? = none := by
    rw [audioPtss, fresh]
    rfl
  intro readers calls _
  rw [noOutput, everyStep_iff_forall_prefix]
  intro _ call _ p _ _
  have always (t : UInt32) : NotBefore none t := by
    intro l nothing
    cases nothing
  cases call with
  | streamMask streamMask => trivial
  | streamSource id source => trivial
  | flvTag id tag =>
      intro timestamp body _ _ _
      cases (p.stream id).audioQueue with
      | nil => exact fun _ => always _
      | cons a rest => exact fun _ => always _

end Session

theorem maskCount_three : maskCount 3 = 2 := by
  decide +kernel

/-- A segment for the first two slots. -/
def pairSegment (first second : Bytes) (firstSmall : first.length < 2 ^ 32)
    (secondSmall : second.length < 2 ^ 32) : Segment where
  mask := 3
  records := [⟨Slot.ofNat 0, desktopSource, first, firstSmall⟩,
    ⟨Slot.ofNat 1, desktopSource, second, secondSmall⟩]
  counted := by rw [maskCount_three]; rfl
  slotFree := by rw [maskCount_three]; decide

def pairInput (first second : Bytes)
    (small : first.length + second.length < 65536) : SmartBuffer where
  data := (pairSegment first second (by omega) (by omega)).bytes
  dataLength_lt := by
    simp only [pairSegment, Segment.bytes, StreamRecord.bytes,
      StreamRecord.header, List.flatMap_cons, List.flatMap_nil,
      List.length_append, List.length_cons, List.length_nil, length_toLE]
    omega

/-- A second stream joins, leaves, and comes back with its next message while
the first one plays on. -/
def returningStream : List MixCall :=
  [.newInput (audioSample 0),
    .newInput (pairInput [] (flvTagBytes 8 0 [0x2f, 7]) (by decide)),
    .getOutput, .newInput (audioSample 26), .getOutput,
    .newInput (audioSample 52), .getOutput,
    .newInput (pairInput (flvTagBytes 8 78 [0x2f, 7])
      (flvTagBytes 8 26 [0x2f, 7]) (by decide)), .getOutput]

end GroupVoip
