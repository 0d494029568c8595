import GroupVoip.KaraokeGenerator

/-!
# What a step of the karaoke thread keeps

The frames passed on and the frames still queued are always the frames parsed,
in order, and the delay queue holds the frames that were passed on but not yet
delayed.  The parser has seen a front part of the song.  These facts survive
every step, at whatever time it is taken.
-/

namespace GroupVoip

open Library.Framing Library.Runs

namespace Karaoke

/-- The deliveries that are not delayed. -/
def KaraokeGenerator.plain (g : KaraokeGenerator) : List Delivery :=
  g.delivered.filter fun d => !d.bIsDelayed

def KaraokeGenerator.delayed (g : KaraokeGenerator) : List Delivery :=
  g.delivered.filter Delivery.bIsDelayed

/-- The delivery that put the object into the delay queue. -/
def DelayObject.delivery (delayObj : DelayObject) : Delivery :=
  ⟨delayObj.flvFrameObj.frame, false, delayObj.enqueTime⟩

/-- `d` is the delayed delivery of what `p` delivered. -/
def Delays (p d : Delivery) : Prop :=
  d.frame = p.frame ∧ DELAY_INTERVAL ≤ d.time - p.time

structure KaraokeGenerator.Balanced (g : KaraokeGenerator) : Prop where
  inOrder : g.plain.map Delivery.frame ++
    g.flvFrameQueue.map FLVFrameObject.frame =
      g.parsed.map FLVFrameObject.frame
  delays : ∃ past,
    g.plain = past ++ g.delayObjectQueue.map DelayObject.delivery ∧
      List.Forall₂ Delays past g.delayed
  firstPasses : g.firstPTS = -1 → g.flvFrameQueue = []

/-- What every step does with the generator, except for the steps that parse
and the one that finishes a song. -/
structure Serves (g g' : KaraokeGenerator) : Prop where
  parsed : g'.parsed = g.parsed
  lastTimestamp : g'.lastTimestamp = g.lastTimestamp
  clockReads : g.clockReads ≤ g'.clockReads
  balanced : g.Balanced → g'.Balanced

namespace Serves

variable {g g' g'' : KaraokeGenerator}

theorem refl (g : KaraokeGenerator) : Serves g g :=
  ⟨rfl, rfl, Nat.le_refl _, id⟩

theorem trans (first : Serves g g') (second : Serves g' g'') :
    Serves g g'' where
  parsed := second.parsed.trans first.parsed
  lastTimestamp := second.lastTimestamp.trans first.lastTimestamp
  clockReads := first.clockReads.trans second.clockReads
  balanced := second.balanced ∘ first.balanced

theorem tick (g : KaraokeGenerator) :
    Serves g { g with clockReads := g.clockReads + 1 } :=
  ⟨rfl, rfl, Nat.le_succ _, fun b => ⟨b.inOrder, b.delays, b.firstPasses⟩⟩

end Serves

namespace KaraokeGenerator

variable {env : Surroundings} {g : KaraokeGenerator} {f : FLVFrameObject}

theorem plain_deliver :
    (g.deliver env f).plain = g.plain ++ [⟨f.frame, false, g.now env⟩] := by
  rw [plain, deliver, List.filter_append]
  rfl

theorem delayed_deliver : (g.deliver env f).delayed = g.delayed := by
  rw [delayed, deliver, List.filter_append]
  exact List.append_nil _

theorem balanced_deliver
    (inOrder : g.plain.map Delivery.frame ++
      f.frame :: g.flvFrameQueue.map FLVFrameObject.frame =
        g.parsed.map FLVFrameObject.frame)
    (delays : ∃ past,
      g.plain = past ++ g.delayObjectQueue.map DelayObject.delivery ∧
        List.Forall₂ Delays past g.delayed)
    (firstPasses : g.firstPTS = -1 → g.flvFrameQueue = []) :
    (g.deliver env f).Balanced := by
  obtain ⟨past, split, later⟩ := delays
  refine ⟨?_, ⟨past, ?_, ?_⟩, firstPasses⟩
  · rw [plain_deliver, List.map_append, List.append_assoc]
    exact inOrder
  · rw [plain_deliver, split, List.append_assoc]
    congr 1
    rw [deliver, List.map_append]
    rfl
  · rw [delayed_deliver]
    exact later

theorem serves_deliver {others : List FLVFrameObject}
    (queued : g.flvFrameQueue = f :: others) :
    Serves g (({ g with flvFrameQueue := others }).deliver env f) where
  parsed := rfl
  lastTimestamp := rfl
  clockReads := Nat.le_succ _
  balanced := by
    intro balanced
    have inOrder := balanced.inOrder
    rw [queued] at inOrder
    refine balanced_deliver ?_ balanced.delays ?_
    · exact inOrder
    intro first
    have empty := balanced.firstPasses first
    rw [queued] at empty
    cases empty

theorem plain_checkForDelaySend :
    (g.checkForDelaySend env).plain = g.plain := by
  simp [plain, checkForDelaySend, List.filter_map, Function.comp_def]

theorem delayed_checkForDelaySend :
    (g.checkForDelaySend env).delayed = g.delayed ++
      (g.delayObjectQueue.takeWhile (isDue (g.now env))).map fun delayObj =>
        ⟨delayObj.flvFrameObj.frame, true, g.now env⟩ := by
  simp [delayed, checkForDelaySend, List.filter_map, Function.comp_def]

theorem serves_checkForDelaySend (env : Surroundings) (g : KaraokeGenerator) :
    Serves g (g.checkForDelaySend env) where
  parsed := rfl
  lastTimestamp := rfl
  clockReads := Nat.le_succ _
  balanced := by
    rintro ⟨inOrder, ⟨past, split, later⟩, firstPasses⟩
    refine ⟨?_, ⟨past ++ (g.delayObjectQueue.takeWhile
      (isDue (g.now env))).map DelayObject.delivery, ?_, ?_⟩, firstPasses⟩
    · rw [plain_checkForDelaySend]
      exact inOrder
    · rw [plain_checkForDelaySend, split, List.append_assoc]
      congr 1
      rw [checkForDelaySend, ← List.map_append, List.takeWhile_append_dropWhile]
    · rw [delayed_checkForDelaySend]
      refine List.rel_append later ?_
      rw [List.forall₂_map_left_iff, List.forall₂_map_right_iff,
        List.forall₂_same]
      intro delayObj member
      have due := List.all_eq_true.mp (List.all_takeWhile) delayObj member
      exact ⟨rfl, of_decide_eq_true due⟩

theorem Balanced.onKaraokeFrameParsed (balanced : g.Balanced) :
    (g.onKaraokeFrameParsed env f).Balanced := by
  have inOrder := balanced.inOrder
  rw [KaraokeGenerator.onKaraokeFrameParsed]
  by_cases first : g.firstPTS = -1
  · rw [if_pos first]
    have empty := balanced.firstPasses first
    refine balanced_deliver ?_ balanced.delays fun _ => empty
    rw [empty, List.map_nil, List.append_nil] at inOrder
    rw [List.map_append, ← inOrder, empty]
    rfl
  · rw [if_neg first]
    refine ⟨?_, balanced.delays, fun again => absurd again first⟩
    rw [List.map_append, List.map_append, ← List.append_assoc]
    exact congrArg (· ++ _) inOrder

end KaraokeGenerator

/-- The timestamp of the last frame, or the offset if there is none. -/
def lastPassed (adjustPTS : Int32) (calls : List FLVFrameObject) : Int32 :=
  calls.foldl (fun _ f => f.timestamp) adjustPTS

/-- What the frames of one read do to the generator. -/
theorem onFrames (env : Surroundings) (calls : List FLVFrameObject) :
    ∀ g : KaraokeGenerator,
      let g' := calls.foldl (KaraokeGenerator.onKaraokeFrameParsed env) g
      g'.parsed = g.parsed ++ calls ∧
        g'.lastTimestamp = lastPassed g.lastTimestamp calls ∧
        (g.Balanced → g'.Balanced) := by
  induction calls with
  | nil => exact fun g => ⟨(List.append_nil _).symm, rfl, id⟩
  | cons f rest inductionHypothesis =>
      intro g
      have fields : (g.onKaraokeFrameParsed env f).parsed = g.parsed ++ [f] ∧
          (g.onKaraokeFrameParsed env f).lastTimestamp = f.timestamp := by
        rw [KaraokeGenerator.onKaraokeFrameParsed]
        split <;> exact ⟨rfl, rfl⟩
      obtain ⟨parsed, last, balanced⟩ :=
        inductionHypothesis (g.onKaraokeFrameParsed env f)
      refine ⟨?_, ?_, fun b => balanced b.onKaraokeFrameParsed⟩
      · rw [List.foldl_cons, parsed, fields.1, List.append_assoc,
          List.singleton_append]
      · rw [List.foldl_cons, last, fields.2]
        rfl

theorem run_parserAct (env : Surroundings) (calls : List FLVFrameObject) :
    ∀ g : KaraokeGenerator, run (parserAct env) g calls =
      .ok (calls.foldl (KaraokeGenerator.onKaraokeFrameParsed env) g) := by
  induction calls with
  | nil => exact fun g => rfl
  | cons f rest inductionHypothesis =>
      intro g
      rw [run_cons, parserAct, Except.bind, inductionHypothesis,
        List.foldl_cons]

/-- Parsing a read is scanning its bytes. -/
theorem readData_eq (env : Surroundings) (flvParser : flvReader.Scan)
    (g : KaraokeGenerator) (src : Bytes) :
    ∃ next calls, flvReader.scan flvParser src = .ok (next, calls) ∧
      readData env flvParser g src =
        (next, calls.foldl (KaraokeGenerator.onKaraokeFrameParsed env) g) := by
  rw [readData, Framer.read_eq_feed]
  cases fed : (flvReader.framer (parserAct env)).feed
      (flvParser.owned (parserAct env) g) src with
  | error impossible => cases impossible
  | ok c =>
      obtain ⟨calls, scanned, ran⟩ := (Emitter.follows_feed flvReader
        (parserAct env) src flvParser g (Emitter.scanOf c) c.state.2).mp fed
      rw [run_parserAct, Except.ok.injEq] at ran
      refine ⟨_, calls, scanned, ?_⟩
      rw [ran]

/-! ## One call of loadASong -/

namespace Loading

/-- The bytes read but not yet parsed. -/
def pending (s : Loading) : Bytes :=
  match s.point with
  | .readBuf result => result
  | _ => []

/-- A reading of the cancel flag found it set. -/
def CancelSeen (env : Surroundings) (s : Loading) : Prop :=
  ∃ k < s.flagReads, env.bCancelCurrentSong k = true

/-- The parser threw. -/
def Overflowed (s : Loading) : Prop :=
  s.flvParser.state.scanState = .overflowed

/-- Why the thread has come to a point behind its loop. -/
def Ended (env : Surroundings) (s : Loading) : Prop :=
  match s.point with
  | .loopHead | .frameWait | .moreData | .readBuf _ | .turnEnd => True
  | .afterLoop =>
      s.bytesTotal < s.fileLen ∨ s.generator.flvFrameQueue ≠ [] →
        s.CancelSeen env ∨ s.Overflowed
  | .cancelDrain => s.CancelSeen env
  | .emptyDelayObjectQueue | .delayDrain _ =>
      (s.bytesTotal < s.fileLen → s.CancelSeen env ∨ s.Overflowed) ∧
        (s.generator.flvFrameQueue ≠ [] → s.Overflowed)
  | .finished =>
      (s.bytesTotal < s.fileLen → s.CancelSeen env ∨ s.Overflowed) ∧
        (s.generator.flvFrameQueue ≠ [] → s.Overflowed) ∧
          s.generator.delayObjectQueue = []

/-- The final drain started at a time the clock has shown. -/
def Timed (env : Surroundings) (s : Loading) : Prop :=
  match s.point with
  | .delayDrain startTime => startTime ≤ s.generator.now env
  | _ => True

/-- The parser has seen a front part of the song, `calls` is what it made of
it, and the timestamp of the last call is the generator's until the song has
ended. -/
structure Reads (g₀ : KaraokeGenerator) (body : Bytes) (s : Loading)
    (consumed : Bytes) (calls : List FLVFrameObject) : Prop where
  split : consumed ++ (s.pending ++ s.input) = body
  scanned : flvReader.scan (newFLVParser g₀.lastTimestamp) consumed =
    .ok (s.flvParser, calls)
  parsed : s.generator.parsed = g₀.parsed ++ calls
  lastTimestamp : s.point ≠ .finished →
    s.generator.lastTimestamp = lastPassed g₀.lastTimestamp calls

structure Inv (env : Surroundings) (g₀ : KaraokeGenerator) (body : Bytes)
    (s : Loading) : Prop where
  reads : ∃ consumed calls, s.Reads g₀ body consumed calls
  balanced : s.generator.Balanced
  ended : s.Ended env
  timed : s.Timed env

variable {env : Surroundings} {g₀ : KaraokeGenerator} {body : Bytes}
variable {s s' : Loading}

/-- Steps that do not touch the input. -/
theorem Inv.serve (inv : s.Inv env g₀ body)
    (serves : Serves s.generator s'.generator)
    (unfinished : s.point ≠ .finished)
    (input : s'.pending ++ s'.input = s.pending ++ s.input)
    (flvParser : s'.flvParser = s.flvParser) (ended : s'.Ended env)
    (timed : s'.Timed env) :
    s'.Inv env g₀ body := by
  obtain ⟨⟨consumed, calls, reads⟩, balanced, -, -⟩ := inv
  refine ⟨⟨consumed, calls, ?_, ?_, ?_, ?_⟩, serves.balanced balanced, ended,
    timed⟩
  · rw [input]
    exact reads.split
  · rw [flvParser]
    exact reads.scanned
  · rw [serves.parsed]
    exact reads.parsed
  · intro _
    rw [serves.lastTimestamp]
    exact reads.lastTimestamp unfinished

theorem CancelSeen.read (now : s.cancelled env = true)
    (reads : s'.flagReads = s.flagReads + 1) : s'.CancelSeen env :=
  ⟨s.flagReads, by omega, now⟩

/-- Once seen, a cancellation is seen at every later reading. -/
theorem CancelSeen.cancelled (seen : s.CancelSeen env) :
    s.cancelled env = true := by
  obtain ⟨k, before, set⟩ := seen
  exact env.cancel_stays (Nat.le_of_lt before) set

theorem Inv.atLoopHead (inv : s.Inv env g₀ body) (here : s.point = .loopHead) :
    (s.atLoopHead env).Inv env g₀ body := by
  have unfinished : s.point ≠ .finished := by simp [here]
  have nothing : s.pending = [] := by simp [pending, here]
  have stays (s' : Loading) (generator : s'.generator = s.generator)
      (input : s'.pending ++ s'.input = s.input)
      (flvParser : s'.flvParser = s.flvParser) (ended : s'.Ended env)
      (timed : s'.Timed env) : s'.Inv env g₀ body := by
    refine inv.serve ?_ unfinished ?_ flvParser ended timed
    · rw [generator]
      exact .refl _
    · rw [nothing]
      exact input
  rw [Loading.atLoopHead]
  by_cases more : s.bytesTotal < s.fileLen ∨ s.generator.flvFrameQueue ≠ []
  · rw [if_pos more]
    by_cases now : s.cancelled env = true
    · rw [if_pos now]
      refine stays _ rfl rfl rfl ?_ trivial
      exact fun _ => .inl (CancelSeen.read now rfl)
    · rw [if_neg now]
      by_cases queued : s.generator.flvFrameQueue ≠ []
      · rw [if_pos queued]
        exact stays _ rfl rfl rfl trivial trivial
      · rw [if_neg queued]
        exact stays _ rfl rfl rfl trivial trivial
  · rw [if_neg more]
    refine stays _ rfl rfl rfl ?_ trivial
    exact fun again => absurd again more

/-- Waiting for the time of a frame serves the delay queue. -/
theorem serves_wait (env : Surroundings) (g : KaraokeGenerator) :
    Serves g (({ g with clockReads := g.clockReads + 1 }).checkForDelaySend
      env) :=
  (Serves.tick g).trans (KaraokeGenerator.serves_checkForDelaySend env _)

/-- A frame whose time has come leaves the queue. -/
theorem serves_frame (env : Surroundings) {g : KaraokeGenerator}
    {curFrame : FLVFrameObject} {others : List FLVFrameObject}
    (queued : g.flvFrameQueue = curFrame :: others) :
    Serves g (({ g with
      clockReads := g.clockReads + 1, flvFrameQueue := others }).deliver env
        curFrame) := by
  have popped := @KaraokeGenerator.serves_deliver env
    { g with clockReads := g.clockReads + 1 } curFrame others queued
  exact (Serves.tick g).trans popped

theorem Inv.atFrameWait (inv : s.Inv env g₀ body)
    (here : s.point = .frameWait) : (s.atFrameWait env).Inv env g₀ body := by
  have unfinished : s.point ≠ .finished := by simp [here]
  have nothing : s.pending = [] := by simp [pending, here]
  rw [Loading.atFrameWait]
  cases queue : s.generator.flvFrameQueue with
  | nil =>
      refine inv.serve (.refl _) unfinished ?_ rfl trivial trivial
      rw [nothing]
      rfl
  | cons curFrame others =>
      dsimp only
      by_cases wait : s.early env curFrame
      · rw [if_pos wait]
        refine inv.serve (serves_wait env _) unfinished rfl rfl ?_ ?_
        · simp [Ended, here]
        · simp [Timed, here]
      · rw [if_neg wait]
        refine inv.serve (serves_frame env queue) unfinished ?_ rfl trivial
          trivial
        rw [nothing]
        rfl

theorem Inv.atMoreData (inv : s.Inv env g₀ body)
    (here : s.point = .moreData) : s.atMoreData.Inv env g₀ body := by
  have unfinished : s.point ≠ .finished := by simp [here]
  have nothing : s.pending = [] := by simp [pending, here]
  rw [Loading.atMoreData]
  by_cases short : s.generator.flvFrameQueue.length < 10
  · rw [if_pos short]
    refine inv.serve (.refl _) unfinished ?_ rfl trivial trivial
    rw [nothing]
    rfl
  · rw [if_neg short]
    refine inv.serve (.refl _) unfinished ?_ rfl trivial trivial
    rw [nothing]
    rfl

/-- The bytes of a read go to the parser. -/
theorem Inv.parse (inv : s.Inv env g₀ body) {result : Bytes}
    (here : s.point = .readBuf result) (bytesTotal : Int32) (point : Point)
    {flvParser : flvReader.Scan} {g : KaraokeGenerator}
    (parsed : readData env s.flvParser s.generator result = (flvParser, g))
    (nothing : pending { s with point := point } = [])
    (ended : Ended env { s with
      flvParser := flvParser, generator := g, bytesTotal := bytesTotal,
      point := point })
    (timed : Timed env { s with generator := g, point := point }) :
    Inv env g₀ body { s with
      flvParser := flvParser, generator := g, bytesTotal := bytesTotal,
      point := point } := by
  obtain ⟨⟨consumed, calls, reads⟩, balanced, -, -⟩ := inv
  obtain ⟨next, more, scanned, result_eq⟩ :=
    readData_eq env s.flvParser s.generator result
  rw [parsed, Prod.mk.injEq] at result_eq
  obtain ⟨rfl, rfl⟩ := result_eq
  obtain ⟨sum, last, keeps⟩ := onFrames env more s.generator
  have hereNot : s.point ≠ .finished := by simp [here]
  have arrived : s.pending = result := by simp [pending, here]
  refine ⟨⟨consumed ++ result, calls ++ more, ?_, ?_, ?_, ?_⟩,
    keeps balanced, ended, timed⟩
  · have split := reads.split
    rw [arrived, ← List.append_assoc] at split
    change consumed ++ result ++
      (pending { s with point := point } ++ s.input) = body
    rw [nothing, List.nil_append]
    exact split
  · exact Emitter.scan_append_ok.mpr ⟨_, _, _, reads.scanned, scanned, rfl⟩
  · rw [sum, reads.parsed, List.append_assoc]
  · intro _
    rw [last, reads.lastTimestamp hereNot, lastPassed, lastPassed, lastPassed,
      List.foldl_append]

theorem Inv.atReadBuf (inv : s.Inv env g₀ body) {result : Bytes}
    (here : s.point = .readBuf result) :
    (s.atReadBuf env result).Inv env g₀ body := by
  have unfinished : s.point ≠ .finished := by simp [here]
  have arrived : s.pending = result := by simp [pending, here]
  rw [Loading.atReadBuf]
  split
  · refine inv.serve (.refl _) unfinished ?_ rfl trivial trivial
    show (result ++ s.input.take _) ++ s.input.drop _ = _
    rw [arrived, List.append_assoc, List.take_append_drop]
  · rcases parsed : readData env s.flvParser s.generator result with
      ⟨flvParser, g⟩
    dsimp only
    split
    · rename_i overflowed
      exact inv.parse here s.bytesTotal .afterLoop parsed rfl
        (fun _ => .inr overflowed) trivial
    · exact inv.parse here _ .turnEnd parsed rfl trivial trivial

theorem Inv.atTurnEnd (inv : s.Inv env g₀ body) (here : s.point = .turnEnd) :
    (s.atTurnEnd env).Inv env g₀ body := by
  have unfinished : s.point ≠ .finished := by simp [here]
  refine inv.serve (KaraokeGenerator.serves_checkForDelaySend env _)
    unfinished ?_ rfl trivial trivial
  simp [pending, here, Loading.atTurnEnd]

theorem Inv.atAfterLoop (inv : s.Inv env g₀ body)
    (here : s.point = .afterLoop) : (s.atAfterLoop env).Inv env g₀ body := by
  have unfinished : s.point ≠ .finished := by simp [here]
  have nothing : s.pending = [] := by simp [pending, here]
  have ended := inv.ended
  rw [Ended, here] at ended
  rw [Loading.atAfterLoop]
  by_cases now : s.cancelled env = true
  · rw [if_pos now]
    refine inv.serve (.refl _) unfinished ?_ rfl (CancelSeen.read now rfl)
      trivial
    rw [nothing]
    rfl
  · rw [if_neg now]
    have overflowed (left : s.bytesTotal < s.fileLen ∨
        s.generator.flvFrameQueue ≠ []) : s.Overflowed := by
      rcases ended left with seen | overflowed
      · exact absurd seen.cancelled now
      · exact overflowed
    refine inv.serve (.refl _) unfinished ?_ rfl ?_ trivial
    · rw [nothing]
      rfl
    · exact ⟨fun left => .inr (overflowed (.inl left)),
        fun left => overflowed (.inr left)⟩

theorem Inv.atCancelDrain (inv : s.Inv env g₀ body)
    (here : s.point = .cancelDrain) :
    (s.atCancelDrain env).Inv env g₀ body := by
  have unfinished : s.point ≠ .finished := by simp [here]
  have nothing : s.pending = [] := by simp [pending, here]
  have seen := inv.ended
  rw [Ended, here] at seen
  rw [Loading.atCancelDrain]
  cases queue : s.generator.flvFrameQueue with
  | nil =>
      refine inv.serve (.refl _) unfinished ?_ rfl ?_ trivial
      · rw [nothing]
        rfl
      · exact ⟨fun _ => .inl seen, fun left => absurd queue left⟩
  | cons curFrame others =>
      dsimp only
      by_cases wait : s.early env curFrame
      · rw [if_pos wait]
        refine inv.serve (serves_wait env _) unfinished rfl rfl ?_ ?_
        · rw [Ended, here]
          exact seen
        · simp [Timed, here]
      · rw [if_neg wait]
        refine inv.serve ((serves_frame env queue).trans
          (KaraokeGenerator.serves_checkForDelaySend env _)) unfinished rfl rfl
          ?_ ?_
        · rw [Ended, here]
          exact seen
        · simp [Timed, here]

theorem Inv.atEmptyDelayObjectQueue (inv : s.Inv env g₀ body)
    (here : s.point = .emptyDelayObjectQueue) :
    (s.atEmptyDelayObjectQueue env).Inv env g₀ body := by
  have unfinished : s.point ≠ .finished := by simp [here]
  have ended := inv.ended
  rw [Ended, here] at ended
  refine inv.serve (.tick _) unfinished ?_ rfl ended ?_
  · simp [pending, here, Loading.atEmptyDelayObjectQueue]
  · exact env.clock_mono (Nat.le_succ _)

theorem Inv.atDelayDrain (inv : s.Inv env g₀ body) {startTime : Int}
    (here : s.point = .delayDrain startTime) :
    (s.atDelayDrain env startTime).Inv env g₀ body := by
  have unfinished : s.point ≠ .finished := by simp [here]
  have ended := inv.ended
  have timed := inv.timed
  rw [Ended, here] at ended
  rw [Timed, here] at timed
  rw [Loading.atDelayDrain]
  by_cases empty : s.generator.delayObjectQueue = []
  · rw [if_pos empty]
    obtain ⟨⟨consumed, calls, reads⟩, balanced, -, -⟩ := inv
    have nothing : s.pending = [] := by simp [pending, here]
    refine ⟨⟨consumed, calls, ?_, reads.scanned, reads.parsed, ?_⟩,
      ⟨balanced.inOrder, balanced.delays, balanced.firstPasses⟩,
      ⟨ended.1, ended.2, empty⟩, trivial⟩
    · have split := reads.split
      rw [nothing] at split
      exact split
    · exact fun again => absurd rfl again
  · rw [if_neg empty]
    refine inv.serve (KaraokeGenerator.serves_checkForDelaySend env _)
      unfinished rfl rfl ?_ ?_
    · rw [Ended, here]
      exact ended
    · rw [Timed, here]
      exact timed.trans (env.clock_mono (Nat.le_succ _))

theorem Inv.step (inv : s.Inv env g₀ body) :
    (s.step env).Inv env g₀ body := by
  rw [Loading.step]
  cases here : s.point with
  | loopHead => exact inv.atLoopHead here
  | frameWait => exact inv.atFrameWait here
  | moreData => exact inv.atMoreData here
  | readBuf result => exact inv.atReadBuf here
  | turnEnd => exact inv.atTurnEnd here
  | afterLoop => exact inv.atAfterLoop here
  | cancelDrain => exact inv.atCancelDrain here
  | emptyDelayObjectQueue => exact inv.atEmptyDelayObjectQueue here
  | delayDrain startTime => exact inv.atDelayDrain here
  | finished => exact inv

theorem Inv.iterate (inv : s.Inv env g₀ body) (n : Nat) :
    ((Loading.step env)^[n] s).Inv env g₀ body := by
  induction n with
  | zero => exact inv
  | succ n inductionHypothesis =>
      rw [Function.iterate_succ_apply']
      exact inductionHypothesis.step

end Loading

/-- The start of a call, with no frame of an earlier song left. -/
theorem inv_loadASong (env : Surroundings) {g₀ : KaraokeGenerator}
    (balanced : g₀.Balanced) (idle : g₀.flvFrameQueue = [])
    {header body : Bytes} (thirteen : header.length = 13) :
    (loadASong env g₀ (header ++ body)).Inv env g₀ body where
  reads := by
    refine ⟨[], [], ?_, rfl, ?_, fun _ => rfl⟩
    · show [] ++ ([] ++ (header ++ body).drop 13) = body
      rw [← thirteen, List.drop_left]
      rfl
    · exact (List.append_nil _).symm
  balanced := ⟨balanced.inOrder, balanced.delays, fun _ => idle⟩
  ended := trivial
  timed := trivial

end Karaoke

end GroupVoip
