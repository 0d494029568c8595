import GroupVoip.KaraokeTurns
import GroupVoip.Library.Eventually
import Mathlib.Tactic.Linarith

/-!
# The karaoke thread finishes a song

As long as no read passes the length that `loadASong` has computed, its count
of the bytes is exact, and every turn of its loop uses up some of the input or
some of the queue.  All its waits end when the clock goes on.
-/

namespace GroupVoip

open Library.Framing Library.Eventually

namespace Karaoke

/-- The clock does not stop. -/
def Surroundings.Unbounded (env : Surroundings) : Prop :=
  ∀ t : Int, ∃ k, t ≤ env.currentTimeMillis k

theorem Surroundings.Unbounded.passes {env : Surroundings}
    (unbounded : env.Unbounded) (t : Int) :
    ∃ k, ∀ j, k ≤ j → t ≤ env.currentTimeMillis j := by
  obtain ⟨k, reached⟩ := unbounded t
  exact ⟨k, fun j later => reached.trans (env.clock_mono later)⟩

/-- No read can pass the computed length. -/
def Surroundings.Exact (env : Surroundings) (body : Bytes) : Prop :=
  body.length < 2147483648 ∨ ∀ k, env.readSize k ≤ 1

namespace Loading

structure Counted (body : Bytes) (s : Loading) : Prop where
  fileLen : s.fileLen = Int32.ofNat body.length
  nonneg : 0 ≤ s.bytesTotal.toInt
  total : s.bytesTotal.toInt + s.pending.length + s.input.length = body.length
  bounded : s.bytesTotal.toInt + s.pending.length ≤ max 0 s.fileLen.toInt

variable {env : Surroundings} {body : Bytes} {s s' : Loading}

/-- An `int` is never more than the number it was made of. -/
theorem toInt_ofNat_le (n : Nat) : (Int32.ofNat n).toInt ≤ n := by
  have size : Int32.size = 4294967296 := rfl
  rw [Int32.toInt_ofNat', Int.bmod, size]
  split <;> omega

theorem Counted.fileLen_le (counted : s.Counted body) :
    s.fileLen.toInt ≤ body.length := by
  rw [counted.fileLen]
  exact toInt_ofNat_le _

theorem toInt_ofNat_add {n : Nat} {x : Int32} (nonneg : 0 ≤ x.toInt)
    (small : x.toInt + n < 2147483648) :
    (Int32.ofNat n + x).toInt = n + x.toInt := by
  rw [Int32.toInt_add, Int32.toInt_ofNat_of_lt (by omega),
    Int.bmod_eq_of_le (by omega) (by omega)]

theorem Counted.small (counted : s.Counted body) :
    s.bytesTotal.toInt + s.pending.length < 2147483648 := by
  have bounded := counted.bounded
  have := s.fileLen.toInt_lt
  omega

/-- The test of `readBuf` compares what it means to. -/
theorem Counted.more_iff (counted : s.Counted body) {result : Bytes}
    (here : s.point = .readBuf result) :
    Int32.ofNat result.length + s.bytesTotal < s.fileLen ↔
      result.length + s.bytesTotal.toInt < s.fileLen.toInt := by
  have small := counted.small
  have arrived : s.pending = result := by simp [pending, here]
  rw [arrived] at small
  rw [Int32.lt_iff_toInt_lt, toInt_ofNat_add counted.nonneg small]

/-- Steps that read nothing. -/
theorem Counted.keep (counted : s.Counted body)
    (fileLen : s'.fileLen = s.fileLen)
    (bytesTotal : s'.bytesTotal = s.bytesTotal)
    (pending : s'.pending = s.pending) (input : s'.input = s.input) :
    s'.Counted body := by
  obtain ⟨length, nonneg, total, bounded⟩ := counted
  rw [← fileLen, ← bytesTotal, ← pending, ← input] at *
  exact ⟨length, nonneg, total, bounded⟩

theorem Counted.atReadBuf (counted : s.Counted body)
    (exact : env.Exact body) {result : Bytes} (here : s.point = .readBuf result)
    (fine : ¬ (s.atReadBuf env result).Overflowed) :
    (s.atReadBuf env result).Counted body := by
  have arrived : s.pending = result := by simp [pending, here]
  have more := counted.more_iff here
  have small := counted.small
  have fileLen_le := counted.fileLen_le
  obtain ⟨length, nonneg, total, bounded⟩ := counted
  rw [arrived] at total bounded small
  rw [Loading.atReadBuf] at fine ⊢
  by_cases goOn : result.length < 4096 ∧
      Int32.ofNat result.length + s.bytesTotal < s.fileLen
  · rw [if_pos goOn] at fine ⊢
    have room := more.mp goOn.2
    have given : s.bytesRead env result ≤ s.input.length := by
      rw [bytesRead]
      omega
    have inside : s.bytesTotal.toInt +
        (result.length + s.bytesRead env result) ≤ s.fileLen.toInt := by
      rcases exact with short | single
      · have whole : s.fileLen.toInt = body.length := by
          rw [length, Int32.toInt_ofNat_of_lt short]
        omega
      · have one := single s.readCalls
        have few : s.bytesRead env result ≤ 1 := by
          rw [bytesRead]
          omega
        omega
    have taken : (result ++ s.input.take (s.bytesRead env result)).length =
        result.length + s.bytesRead env result := by
      rw [List.length_append, List.length_take, Nat.min_eq_left given]
    refine ⟨length, nonneg, ?_, ?_⟩
    · show s.bytesTotal.toInt + ((_ ++ _ : Bytes).length : Int) +
        ((s.input.drop _).length : Int) = _
      rw [taken, List.length_drop]
      omega
    · show s.bytesTotal.toInt + ((_ ++ _ : Bytes).length : Int) ≤ _
      rw [taken]
      show _ ≤ max 0 s.fileLen.toInt
      omega
  · rw [if_neg goOn] at fine ⊢
    generalize readData env s.flvParser s.generator result = parsed at fine ⊢
    obtain ⟨flvParser, g⟩ := parsed
    dsimp only at fine ⊢
    by_cases overflowed : flvParser.state.scanState = .overflowed
    · rw [if_pos overflowed] at fine
      exact absurd overflowed fine
    · rw [if_neg overflowed]
      have sum := toInt_ofNat_add nonneg small
      rw [Int32.add_comm] at sum
      refine ⟨length, ?_, ?_, ?_⟩
      · show 0 ≤ (s.bytesTotal + Int32.ofNat result.length).toInt
        rw [sum]
        omega
      · show (s.bytesTotal + Int32.ofNat result.length).toInt +
          ((0 : Nat) : Int) + s.input.length = _
        rw [sum]
        omega
      · show (s.bytesTotal + Int32.ofNat result.length).toInt +
          ((0 : Nat) : Int) ≤ max 0 s.fileLen.toInt
        rw [sum]
        omega

/-- A step outside `readBuf` neither reads nor counts. -/
theorem step_still (quiet : ∀ result, s.point ≠ .readBuf result) :
    (s.step env).fileLen = s.fileLen ∧
      (s.step env).bytesTotal = s.bytesTotal ∧
      (s.step env).pending = s.pending ∧ (s.step env).input = s.input := by
  rw [Loading.step]
  cases here : s.point with
  | loopHead =>
      simp only [atLoopHead, pending, here]
      split_ifs <;> simp
  | frameWait =>
      simp only [atFrameWait]
      split
      · simp [pending, here]
      · split_ifs <;> simp [pending, here]
  | moreData =>
      simp only [atMoreData, pending, here]
      split_ifs <;> simp
  | readBuf result => exact absurd here (quiet result)
  | turnEnd => simp [atTurnEnd, pending, here]
  | afterLoop =>
      simp only [atAfterLoop, pending, here]
      split_ifs <;> simp
  | cancelDrain =>
      simp only [atCancelDrain]
      split
      · simp [pending, here]
      · split_ifs <;> simp [pending, here]
  | emptyDelayObjectQueue => simp [atEmptyDelayObjectQueue, pending, here]
  | delayDrain startTime =>
      simp only [atDelayDrain]
      split_ifs <;> simp [pending, here]
  | finished => exact ⟨rfl, rfl, rfl, rfl⟩

theorem step_readBuf {result : Bytes} (here : s.point = .readBuf result) :
    s.step env = s.atReadBuf env result := by
  rw [Loading.step, here]

theorem Counted.step (counted : s.Counted body) (exact : env.Exact body)
    (fine : ¬ (s.step env).Overflowed) : (s.step env).Counted body := by
  by_cases reading : ∃ result, s.point = .readBuf result
  · obtain ⟨result, here⟩ := reading
    rw [step_readBuf here] at fine ⊢
    exact counted.atReadBuf exact here fine
  · obtain ⟨fileLen, bytesTotal, pending, input⟩ :=
      @step_still env s fun result here => reading ⟨result, here⟩
    exact counted.keep fileLen bytesTotal pending input

/-! ## The stages of a call -/

/-- What is known at every step of a call. -/
structure Good (env : Surroundings) (g₀ : KaraokeGenerator) (body : Bytes)
    (s : Loading) : Prop where
  inv : s.Inv env g₀ body
  counted : s.Counted body

section Stages

variable {g₀ : KaraokeGenerator}

/-- The song does not make the parser throw. -/
def Fine (env : Surroundings) (g₀ : KaraokeGenerator) (body : Bytes) : Prop :=
  ∀ s : Loading, s.Inv env g₀ body → ¬ s.Overflowed

theorem Good.step (good : s.Good env g₀ body) (exact : env.Exact body)
    (fine : Fine env g₀ body) : (s.step env).Good env g₀ body :=
  ⟨good.inv.step, good.counted.step exact (fine _ good.inv.step)⟩

/-- No frame comes out of no bytes. -/
theorem readData_nil (env : Surroundings) (flvParser : flvReader.Scan)
    (g : KaraokeGenerator) : readData env flvParser g [] = (flvParser, g) := by
  obtain ⟨next, calls, scanned, parsed⟩ := readData_eq env flvParser g []
  rw [Emitter.scan, Except.ok.injEq, Prod.mk.injEq] at scanned
  obtain ⟨rfl, rfl⟩ := scanned
  exact parsed

/-- A read that is wanted gets something. -/
theorem Good.reads_some (good : s.Good env g₀ body) {result : Bytes}
    (here : s.point = .readBuf result) (room : result.length < 4096)
    (wanted : result.length + s.bytesTotal.toInt < s.fileLen.toInt) :
    0 < s.bytesRead env result ∧ 0 < s.input.length := by
  have total := good.counted.total
  have fileLen_le := good.counted.fileLen_le
  have arrived : s.pending = result := by simp [pending, here]
  rw [arrived] at total
  have some_left : 0 < s.input.length := by omega
  refine ⟨?_, some_left⟩
  rw [bytesRead]
  omega

/-- The turn of `readBuf` that still wants bytes. -/
theorem Good.readBuf_more (good : s.Good env g₀ body) {result : Bytes}
    (here : s.point = .readBuf result) (room : result.length < 4096)
    (wanted : result.length + s.bytesTotal.toInt < s.fileLen.toInt) :
    (∃ result', (s.step env).point = .readBuf result') ∧
      (s.step env).input.length < s.input.length := by
  have more := (good.counted.more_iff here).mpr wanted
  obtain ⟨positive, some_left⟩ :=
    @reads_some env body s g₀ good _ here room wanted
  rw [step_readBuf here, Loading.atReadBuf, if_pos ⟨room, more⟩]
  refine ⟨⟨_, rfl⟩, ?_⟩
  rw [List.length_drop]
  omega

/-- `readBuf` ends, and the bytes it has read are parsed. -/
theorem Good.leads_parse (good : s.Good env g₀ body)
    (exact : env.Exact body) (fine : Fine env g₀ body) {result : Bytes}
    (here : s.point = .readBuf result) :
    Leads (Loading.step env) (fun t => t.Good env g₀ body ∧
      t.point = .turnEnd ∧ (t.input.length < s.input.length ∨
        t.input.length = s.input.length ∧ (result = [] →
          t.generator.flvFrameQueue = s.generator.flvFrameQueue))) s := by
  obtain ⟨left, same⟩ : ∃ left, s.input.length = left := ⟨_, rfl⟩
  induction left using Nat.strong_induction_on generalizing s result with
  | _ left inductionHypothesis =>
      have next := good.step exact fine
      by_cases goOn : result.length < 4096 ∧
          result.length + s.bytesTotal.toInt < s.fileLen.toInt
      · obtain ⟨⟨result', again⟩, shorter⟩ :=
          @readBuf_more env body s g₀ good _ here goOn.1 goOn.2
        apply Leads.next
        have later := inductionHypothesis _ (same ▸ shorter) next again rfl
        refine later.mono ?_
        rintro t ⟨goodT, atEnd, less | ⟨equal, -⟩⟩
        · exact ⟨goodT, atEnd, .inl (by omega)⟩
        · exact ⟨goodT, atEnd, .inl (by omega)⟩
      · have stop : ¬ (result.length < 4096 ∧
            Int32.ofNat result.length + s.bytesTotal < s.fileLen) := by
          rw [good.counted.more_iff here]
          exact goOn
        have notThrown := fine _ next.inv
        apply Leads.next
        apply Leads.here
        refine ⟨next, ?_⟩
        rw [step_readBuf here, Loading.atReadBuf, if_neg stop] at notThrown ⊢
        have nothing := readData_nil env s.flvParser s.generator
        rcases parsed : readData env s.flvParser s.generator result with
          ⟨flvParser, g⟩
        rw [parsed] at notThrown
        dsimp only at notThrown ⊢
        by_cases overflowed : flvParser.state.scanState = .overflowed
        · rw [if_pos overflowed] at notThrown
          exact absurd overflowed notThrown
        · rw [if_neg overflowed]
          refine ⟨rfl, .inr ⟨rfl, ?_⟩⟩
          rintro rfl
          rw [parsed, Prod.mk.injEq] at nothing
          exact congrArg KaraokeGenerator.flvFrameQueue nothing.2

/-- A frame is not early for ever. -/
theorem early_bound (unbounded : env.Unbounded) (startTime : Int)
    (firstPTS : Int32) (f : FLVFrameObject) :
    ∃ enough, ∀ t : Loading, t.startTime = startTime →
      t.generator.firstPTS = firstPTS → t.early env f →
        t.generator.clockReads < enough := by
  obtain ⟨enough, passed⟩ :=
    unbounded.passes (startTime + (f.timestamp - firstPTS).toInt)
  refine ⟨enough, ?_⟩
  rintro t rfl rfl wait
  by_contra late
  have time := passed t.generator.clockReads (by omega)
  have now : env.currentTimeMillis t.generator.clockReads - t.startTime <
      (f.timestamp - t.generator.firstPTS).toInt := wait
  omega

/-- The time of the first frame of the queue comes, and it is passed on. -/
theorem Good.leads_frame (good : s.Good env g₀ body) (exact : env.Exact body)
    (fine : Fine env g₀ body) (unbounded : env.Unbounded)
    (here : s.point = .frameWait) {curFrame : FLVFrameObject}
    {others : List FLVFrameObject}
    (queue : s.generator.flvFrameQueue = curFrame :: others) :
    Leads (Loading.step env) (fun t => t.Good env g₀ body ∧
      t.point = .moreData ∧ t.generator.flvFrameQueue = others ∧
        t.input = s.input) s := by
  obtain ⟨enough, bound⟩ := early_bound unbounded s.startTime
    s.generator.firstPTS curFrame
  refine @leads_of_wait _ _ _ s (fun t => t.Good env g₀ body ∧
    t.point = .frameWait ∧ t.generator.flvFrameQueue = curFrame :: others ∧
      t.input = s.input ∧ t.startTime = s.startTime ∧
        t.generator.firstPTS = s.generator.firstPTS)
    (fun t => t.generator.clockReads) enough ?_
    ⟨good, here, queue, rfl, rfl, rfl⟩
  rintro t ⟨goodT, hereT, queueT, input, startTime, firstPTS⟩
  have next := goodT.step exact fine
  have below := bound t startTime firstPTS
  rw [Loading.step, hereT] at next ⊢
  simp only [atFrameWait, queueT] at next ⊢
  by_cases wait : t.early env curFrame
  · rw [if_pos wait] at next ⊢
    have later : t.generator.clockReads < t.generator.clockReads + 1 + 1 := by
      omega
    exact .inr ⟨⟨next, hereT, rfl, input, startTime, firstPTS⟩, later,
      below wait⟩
  · rw [if_neg wait] at next ⊢
    exact .inl ⟨next, rfl, rfl, input⟩

/-- The end of a turn of the loop, with less to do than at its start. -/
def Less (m m' : Nat × Nat) : Prop :=
  m.1 < m'.1 ∨ m.1 = m'.1 ∧ m.2 < m'.2

theorem wellFounded_less : WellFounded Less := by
  have lex := (Prod.lex Nat.lt_wfRel Nat.lt_wfRel).wf
  refine Subrelation.wf ?_ lex
  rintro ⟨a, b⟩ ⟨a', b'⟩ (first | ⟨equal, second⟩)
  · exact Prod.Lex.left _ _ first
  · cases equal
    exact Prod.Lex.right _ second

/-- The bytes not read and the frames not passed on. -/
def work (s : Loading) : Nat × Nat :=
  (s.input.length, s.generator.flvFrameQueue.length)

/-- From the end of a turn back to the head of the loop. -/
theorem Good.leads_loopHead (good : s.Good env g₀ body)
    (exact : env.Exact body) (fine : Fine env g₀ body)
    (here : s.point = .turnEnd) :
    Leads (Loading.step env) (fun t => t.Good env g₀ body ∧
      t.point = .loopHead ∧ t.work = s.work) s := by
  apply Leads.next
  apply Leads.here
  refine ⟨good.step exact fine, ?_⟩
  rw [Loading.step, here]
  exact ⟨rfl, rfl⟩

/-- The second half of a turn of the loop. -/
theorem Good.leads_moreData (good : s.Good env g₀ body)
    (exact : env.Exact body) (fine : Fine env g₀ body)
    (here : s.point = .moreData) :
    Leads (Loading.step env) (fun t => t.Good env g₀ body ∧
      t.point = .loopHead ∧ (t.input.length < s.input.length ∨
        t.work = s.work)) s := by
  have next := good.step exact fine
  apply Leads.next
  by_cases short : s.generator.flvFrameQueue.length < 10
  · have reading : s.step env = { s with point := .readBuf [] } := by
      rw [Loading.step, here]
      exact congrArg (fun p => { s with point := p }) (if_pos short)
    rw [reading] at next ⊢
    refine (next.leads_parse exact fine rfl).andThen ?_
    rintro t ⟨goodT, atEnd, read⟩
    refine (goodT.leads_loopHead exact fine atEnd).mono ?_
    rintro u ⟨goodU, atHead, work⟩
    refine ⟨goodU, atHead, ?_⟩
    rcases read with less | ⟨equal, queue⟩
    · have input : u.input.length = t.input.length := congrArg Prod.fst work
      left
      rw [input]
      exact less
    · right
      rw [work, Loading.work, equal, queue rfl]
      rfl
  · have full : s.step env = { s with point := .turnEnd } := by
      rw [Loading.step, here]
      exact congrArg (fun p => { s with point := p }) (if_neg short)
    rw [full] at next ⊢
    refine (next.leads_loopHead exact fine rfl).mono ?_
    rintro u ⟨goodU, atHead, work⟩
    exact ⟨goodU, atHead, .inr work⟩

/-- With an empty queue a turn of the loop reads. -/
theorem Good.leads_read (good : s.Good env g₀ body)
    (exact : env.Exact body) (fine : Fine env g₀ body)
    (here : s.point = .moreData) (empty : s.generator.flvFrameQueue = [])
    (wanted : s.bytesTotal < s.fileLen) :
    Leads (Loading.step env) (fun t => t.Good env g₀ body ∧
      t.point = .loopHead ∧ t.input.length < s.input.length) s := by
  have next := good.step exact fine
  apply Leads.next
  have reading : s.step env = { s with point := .readBuf [] } := by
    rw [Loading.step, here]
    refine congrArg (fun p => { s with point := p }) (if_pos ?_)
    rw [empty]
    exact Nat.succ_pos _
  rw [reading] at next ⊢
  have wantedInt : (([] : Bytes).length : Int) + s.bytesTotal.toInt <
      s.fileLen.toInt := by
    have := Int32.lt_iff_toInt_lt.mp wanted
    simpa using this
  obtain ⟨⟨result, again⟩, shorter⟩ :=
    next.readBuf_more rfl (Nat.succ_pos _) wantedInt
  apply Leads.next
  refine ((next.step exact fine).leads_parse exact fine again).andThen ?_
  rintro t ⟨goodT, atEnd, read⟩
  refine (goodT.leads_loopHead exact fine atEnd).mono ?_
  rintro u ⟨goodU, atHead, work⟩
  refine ⟨goodU, atHead, ?_⟩
  have input : u.input.length = t.input.length := congrArg Prod.fst work
  have below : t.input.length ≤
      (Loading.step env { s with point := .readBuf [] }).input.length := by
    rcases read with less | ⟨equal, -⟩
    · exact Nat.le_of_lt less
    · exact Nat.le_of_eq equal
  change _ < s.input.length at shorter
  omega

/-- A turn of the loop leaves it or has less to do. -/
theorem Good.leads_turn (good : s.Good env g₀ body) (exact : env.Exact body)
    (fine : Fine env g₀ body) (unbounded : env.Unbounded)
    (here : s.point = .loopHead) :
    Leads (Loading.step env) (fun t => t.point = .afterLoop ∨
      (t.Good env g₀ body ∧ t.point = .loopHead) ∧ Less t.work s.work) s := by
  have next := good.step exact fine
  apply Leads.next
  have stepped : s.step env = s.atLoopHead env := by
    rw [Loading.step, here]
  rw [stepped, Loading.atLoopHead] at next ⊢
  by_cases more : s.bytesTotal < s.fileLen ∨ s.generator.flvFrameQueue ≠ []
  · rw [if_pos more] at next ⊢
    by_cases now : s.cancelled env = true
    · rw [if_pos now]
      exact .here (.inl rfl)
    · rw [if_neg now] at next ⊢
      cases queue : s.generator.flvFrameQueue with
      | nil =>
          rw [queue, if_neg (by simp)] at next
          rw [if_neg (by simp)]
          have wanted : s.bytesTotal < s.fileLen := by
            rcases more with wanted | queued
            · exact wanted
            · exact absurd queue queued
          refine (next.leads_read exact fine rfl queue wanted).mono ?_
          rintro t ⟨goodT, atHead, less⟩
          exact .inr ⟨⟨goodT, atHead⟩, .inl less⟩
      | cons curFrame others =>
          rw [queue, if_pos (List.cons_ne_nil _ _)] at next
          rw [if_pos (List.cons_ne_nil _ _)]
          refine (next.leads_frame exact fine unbounded rfl queue).andThen ?_
          rintro t ⟨goodT, atMore, shorter, input⟩
          refine (goodT.leads_moreData exact fine atMore).mono ?_
          rintro u ⟨goodU, atHead, less | work⟩
          · rw [input] at less
            exact .inr ⟨⟨goodU, atHead⟩, .inl less⟩
          · refine .inr ⟨⟨goodU, atHead⟩, .inr ?_⟩
            rw [work]
            refine ⟨congrArg List.length input, ?_⟩
            show t.generator.flvFrameQueue.length <
              s.generator.flvFrameQueue.length
            rw [shorter, queue]
            exact Nat.lt_succ_self _
  · rw [if_neg more]
    exact .here (.inl rfl)

theorem Good.leads_afterLoop (good : s.Good env g₀ body)
    (exact : env.Exact body) (fine : Fine env g₀ body)
    (unbounded : env.Unbounded) (here : s.point = .loopHead) :
    Leads (Loading.step env) (fun t => t.point = .afterLoop) s := by
  refine @leads_of_rounds _ _ _ s _ _ work wellFounded_less
    (fun t => t.Good env g₀ body ∧ t.point = .loopHead) ?_ ⟨good, here⟩
  rintro t ⟨goodT, atHead⟩
  exact goodT.leads_turn exact fine unbounded atHead

end Stages

/-! ## Behind the loop -/

section Drains

/-- A frame of a cancelled song is passed on when its time comes. -/
theorem leads_cancelFrame (unbounded : env.Unbounded)
    (here : s.point = .cancelDrain) {curFrame : FLVFrameObject}
    {others : List FLVFrameObject}
    (queue : s.generator.flvFrameQueue = curFrame :: others) :
    Leads (Loading.step env) (fun t => t.point = .cancelDrain ∧
      t.generator.flvFrameQueue = others) s := by
  obtain ⟨enough, bound⟩ := early_bound unbounded s.startTime
    s.generator.firstPTS curFrame
  refine @leads_of_wait _ _ _ s (fun t => t.point = .cancelDrain ∧
    t.generator.flvFrameQueue = curFrame :: others ∧
      t.startTime = s.startTime ∧
        t.generator.firstPTS = s.generator.firstPTS)
    (fun t => t.generator.clockReads) enough ?_ ⟨here, queue, rfl, rfl⟩
  rintro t ⟨hereT, queueT, startTime, firstPTS⟩
  have below := bound t startTime firstPTS
  rw [Loading.step, hereT]
  simp only [atCancelDrain, queueT]
  by_cases wait : t.early env curFrame
  · rw [if_pos wait]
    have later : t.generator.clockReads < t.generator.clockReads + 1 + 1 := by
      omega
    exact .inr ⟨⟨hereT, rfl, startTime, firstPTS⟩, later, below wait⟩
  · rw [if_neg wait]
    exact .inl ⟨hereT, rfl⟩

theorem leads_cancelDrained (unbounded : env.Unbounded)
    (here : s.point = .cancelDrain) :
    Leads (Loading.step env) (fun t => t.point = .emptyDelayObjectQueue) s := by
  refine @leads_of_rounds _ _ _ s _ _
    (fun t => t.generator.flvFrameQueue.length) Nat.lt_wfRel.wf
    (fun t => t.point = .cancelDrain) ?_ here
  intro t hereT
  cases queue : t.generator.flvFrameQueue with
  | nil =>
      apply Leads.next
      apply Leads.here
      left
      rw [Loading.step, hereT]
      simp only [atCancelDrain, queue]
  | cons curFrame others =>
      refine (leads_cancelFrame unbounded hereT queue).mono ?_
      rintro u ⟨hereU, queueU⟩
      right
      refine ⟨hereU, ?_⟩
      show u.generator.flvFrameQueue.length < _
      rw [queueU]
      exact Nat.lt_succ_self _

/-- An object of the delay queue is sent when its time comes. -/
theorem leads_delaySend (unbounded : env.Unbounded) {startTime : Int}
    (here : s.point = .delayDrain startTime)
    (queued : s.generator.delayObjectQueue ≠ []) :
    Leads (Loading.step env) (fun t => t.point = .delayDrain startTime ∧
      t.generator.delayObjectQueue.length <
        s.generator.delayObjectQueue.length) s := by
  obtain ⟨delayObj, others, queue⟩ := List.exists_cons_of_ne_nil queued
  obtain ⟨enough, passed⟩ :=
    unbounded.passes (delayObj.enqueTime + DELAY_INTERVAL)
  refine @leads_of_wait _ _ _ s (fun t => t.point = .delayDrain startTime ∧
    t.generator.delayObjectQueue = delayObj :: others)
    (fun t => t.generator.clockReads) enough ?_ ⟨here, queue⟩
  rintro t ⟨hereT, queueT⟩
  have nonempty : t.generator.delayObjectQueue ≠ [] := by
    rw [queueT]
    exact List.cons_ne_nil _ _
  rw [Loading.step, hereT]
  simp only [atDelayDrain]
  rw [if_neg nonempty]
  by_cases due : KaraokeGenerator.isDue (t.generator.now env) delayObj = true
  · left
    refine ⟨hereT, ?_⟩
    show (List.dropWhile _ t.generator.delayObjectQueue).length < _
    rw [queueT, queue, List.dropWhile_cons_of_pos due]
    exact Nat.lt_succ_of_le (List.dropWhile_sublist _).length_le
  · right
    refine ⟨⟨hereT, ?_⟩, Nat.lt_succ_self _, ?_⟩
    · show List.dropWhile _ t.generator.delayObjectQueue = _
      rw [queueT, List.dropWhile_cons_of_neg due]
    · by_contra late
      have time := passed t.generator.clockReads (by omega)
      apply due
      have now : t.generator.now env =
        env.currentTimeMillis t.generator.clockReads := rfl
      rw [KaraokeGenerator.isDue, decide_eq_true_iff, now]
      omega

theorem leads_finished (unbounded : env.Unbounded) {startTime : Int}
    (here : s.point = .delayDrain startTime) :
    Leads (Loading.step env) (fun t => t.point = .finished) s := by
  refine @leads_of_rounds _ _ _ s _ _
    (fun t => t.generator.delayObjectQueue.length) Nat.lt_wfRel.wf
    (fun t => t.point = .delayDrain startTime) ?_ here
  intro t hereT
  by_cases empty : t.generator.delayObjectQueue = []
  · apply Leads.next
    apply Leads.here
    left
    rw [Loading.step, hereT]
    simp only [atDelayDrain]
    rw [if_pos empty]
  · refine (leads_delaySend unbounded hereT empty).mono ?_
    rintro u ⟨hereU, shorter⟩
    exact .inr ⟨hereU, shorter⟩

theorem leads_end (unbounded : env.Unbounded) (here : s.point = .afterLoop) :
    Leads (Loading.step env) (fun t => t.point = .finished) s := by
  have fromEmpty (t : Loading) (hereT : t.point = .emptyDelayObjectQueue) :
      Leads (Loading.step env) (fun t => t.point = .finished) t := by
    apply Leads.next
    have drains : (t.step env).point = .delayDrain (t.generator.now env) := by
      rw [Loading.step, hereT]
      rfl
    exact leads_finished unbounded drains
  apply Leads.next
  have stepped : (s.step env).point =
      if s.cancelled env then .cancelDrain else .emptyDelayObjectQueue := by
    rw [Loading.step, here]
    rfl
  by_cases now : s.cancelled env = true
  · rw [if_pos now] at stepped
    exact (leads_cancelDrained unbounded stepped).andThen fromEmpty
  · rw [if_neg now] at stepped
    exact fromEmpty _ stepped

end Drains

/-- A call of `loadASong` comes to its end. -/
theorem Good.leads_finished {g₀ : KaraokeGenerator}
    (good : s.Good env g₀ body) (exact : env.Exact body)
    (fine : Fine env g₀ body) (unbounded : env.Unbounded)
    (here : s.point = .loopHead) :
    Leads (Loading.step env) (fun t => t.point = .finished) s :=
  (good.leads_afterLoop exact fine unbounded here).andThen fun _ atEnd =>
    leads_end unbounded atEnd

end Loading

end Karaoke

end GroupVoip
