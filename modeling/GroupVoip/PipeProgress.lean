import GroupVoip.PipeDelivery

/-!
# The writer comes to the end of its queue

As long as no notify is missed, what was added can always be written: the
writer and the notifies that are on their way need no further producer, and
take four steps for each object.
-/

namespace GroupVoip

open Library.Runs

namespace ProcessPipe

variable {α : Type}

/-- The pipe is neither closed nor broken by the step. -/
def GoesOn (a : Step α) : Prop :=
  a ≠ .close ∧ a ≠ .writeFailed

instance [DecidableEq α] (a : Step α) : Decidable (GoesOn a) :=
  inferInstanceAs (Decidable (_ ∧ _))

namespace State

variable {s t : State α} {added : List α}

/-- The writer thread runs and has not been told to stop. -/
structure Working (s : State α) : Prop where
  running : s.bShouldContWriterThread = true
  alive : s.writer ≠ .exited

theorem Working.writerStep (working : s.Working)
    (stepped : s.writerStep = .ok t) : t.Working := by
  obtain ⟨running, alive⟩ := working
  rw [State.writerStep] at stepped
  cases here : s.writer with
  | outerTest =>
      rw [here] at stepped
      cases stepped
      exact ⟨running, by simp [running]⟩
  | drainTest | emptyTest =>
      rw [here] at stepped
      cases stepped
      refine ⟨running, ?_⟩
      by_cases empty : s.outBuffers = [] <;> simp [empty]
  | drainFlag | emptyFlag =>
      rw [here] at stepped
      cases stepped
      exact ⟨running, by simp [running]⟩
  | waiting | exited =>
      rw [here] at stepped
      cases stepped
  | remove | write | enter | callWait | woken | leave =>
      rw [here] at stepped
      cases stepped
      exact ⟨running, by simp⟩

theorem Working.act {a : Step α} (working : s.Working) (goesOn : GoesOn a)
    (stepped : s.act a = .ok t) : t.Working := by
  cases a with
  | add inputObject =>
      cases stepped
      exact ⟨working.running, working.alive⟩
  | close => exact absurd rfl goesOn.1
  | notify =>
      rw [State.act, State.notify] at stepped
      by_cases enabled : s.monitorFree ∧ 0 < s.pendingNotifies
      · rw [if_pos enabled] at stepped
        cases stepped
        refine ⟨working.running, ?_⟩
        by_cases waits : s.writer = .waiting
        · simp [waits]
        · simpa [waits] using working.alive
      · rw [if_neg enabled] at stepped
        cases stepped
  | writer => exact working.writerStep stepped
  | writeFailed => exact absurd rfl goesOn.2
  | spuriousWakeup =>
      rw [State.act, State.spuriousWakeup] at stepped
      by_cases waits : s.writer = .waiting
      · rw [if_pos waits] at stepped
        cases stepped
        exact ⟨working.running, by simp⟩
      · rw [if_neg waits] at stepped
        cases stepped

/-! ## One turn -/

/-- How many steps the writer is away from its next write, at most. -/
def distance : WriterPoint → Nat
  | .emptyFlag => 11
  | .enter => 10
  | .callWait => 9
  | .waiting => 8
  | .woken => 7
  | .leave => 6
  | .emptyTest => 5
  | .outerTest => 4
  | .drainTest => 3
  | .drainFlag => 2
  | .remove => 1
  | .write => 0
  | .exited => 0

/-- Between two writes there are four steps. -/
def work (s : State α) : Nat :=
  4 * s.pending.length + distance s.writer

/-- The writer, or the notify that it waits for. -/
def Serves (a : Step α) : Prop :=
  a = .writer ∨ a = .notify

/-- A writer that does not wait takes its next step, which brings it nearer to
the end of its work. -/
theorem Working.writer_turn (working : s.Working)
    (accounts : Accounts added 0 s) (more : s.pending ≠ [])
    (awake : s.writer ≠ .waiting) :
    ∃ t, s.writerStep = .ok t ∧ t.work < s.work := by
  have running := working.running
  have queued : s.writer ≠ .write → s.removed = none ∧ s.outBuffers ≠ [] := by
    intro notWrite
    have nothing : s.removed = none := by
      rw [← Option.not_isSome_iff_eq_none, accounts.inHand]
      exact notWrite
    rw [pending, nothing] at more
    exact ⟨nothing, more⟩
  rw [State.writerStep]
  cases here : s.writer with
  | waiting => exact absurd here awake
  | exited => exact absurd here working.alive
  | write =>
      obtain ⟨obj, held⟩ := Option.isSome_iff_exists.mp
        (accounts.inHand.mpr here)
      refine ⟨_, rfl, ?_⟩
      simp only [work, pending, here, held, distance, Option.toList_some,
        Option.toList_none, List.length_append, List.length_cons,
        List.length_nil]
      omega
  | remove =>
      obtain ⟨nothing, some⟩ := queued (by simp [here])
      obtain ⟨first, rest, split⟩ := List.exists_cons_of_ne_nil some
      refine ⟨_, rfl, ?_⟩
      simp only [work, pending, here, nothing, split, distance,
        List.head?_cons, List.tail_cons, Option.toList_some,
        Option.toList_none, List.length_append, List.length_cons,
        List.length_nil]
      omega
  | outerTest | drainTest | drainFlag | emptyTest | emptyFlag =>
      obtain ⟨_, some⟩ := queued (by simp [here])
      refine ⟨_, rfl, ?_⟩
      simp [work, pending, here, distance, running, some]
  | enter | callWait | woken | leave =>
      refine ⟨_, rfl, ?_⟩
      simp [work, pending, here, distance]

/-- While something is pending, the writer or a notify makes progress. -/
theorem Working.turn (working : s.Working) (inv : s.Inv)
    (accounts : Accounts added 0 s) (more : s.pending ≠ []) :
    ∃ a, Serves a ∧ s.Noticed a ∧ ∃ t, s.act a = .ok t ∧ t.work < s.work := by
  by_cases waits : s.writer = .waiting
  · have nothing : s.removed = none := by
      rw [← Option.not_isSome_iff_eq_none, accounts.inHand, waits]
      simp
    rw [pending, nothing] at more
    have heads : s.HeadsForWait := by
      rw [HeadsForWait, waits]
      exact .inl more
    have enabled : s.monitorFree ∧ 0 < s.pendingNotifies :=
      ⟨by simp [monitorFree, waits], inv heads⟩
    refine ⟨.notify, .inr rfl, fun awake => absurd waits awake, ?_⟩
    rw [State.act, State.notify, if_pos enabled]
    refine ⟨_, rfl, ?_⟩
    simp [work, pending, waits, distance]
  · obtain ⟨t, stepped, less⟩ := working.writer_turn accounts more waits
    exact ⟨.writer, .inl rfl, trivial, t, stepped, less⟩

/-- Such turns follow one another until nothing is pending. -/
theorem Working.drains :
    ∀ {s : State α}, s.Working → s.Inv → Accounts added 0 s →
      ∃ turns t, (∀ a ∈ turns, Serves a) ∧ turns.length ≤ s.work ∧
        run State.act s turns = .ok t ∧ t.written = added := by
  intro s
  induction measured : s.work using Nat.strongRecOn generalizing s with
  | ind work inductionHypothesis =>
      intro working inv accounts
      by_cases more : s.pending = []
      · obtain ⟨lost, nothing, split⟩ := accounts.inOrder
        have allWritten : s.written = added := by
          rw [pending, List.append_eq_nil_iff] at more
          rw [split, List.length_eq_zero_iff.mp nothing, more.1, more.2]
          simp
        exact ⟨[], s, by simp, Nat.zero_le _, rfl, allWritten⟩
      · obtain ⟨a, serves, noticed, t, stepped, less⟩ :=
          working.turn inv accounts more
        have goesOn : GoesOn a := by
          rcases serves with isWriter | isNotify
          · simp [GoesOn, isWriter]
          · simp [GoesOn, isNotify]
        have later := accounts.act stepped
        have same : added ++ addedBy [a] = added ∧ 0 + failures [a] = 0 := by
          rcases serves with isWriter | isNotify
          · simp [isWriter, addedBy, failures]
          · simp [isNotify, addedBy, failures]
        rw [same.1, same.2] at later
        obtain ⟨turns, final, serve, short, reached, written⟩ :=
          inductionHypothesis t.work (measured ▸ less) rfl
            (working.act goesOn stepped) (inv.act noticed stepped) later
        refine ⟨a :: turns, final, ?_, ?_, ?_, written⟩
        · intro b member
          rcases List.mem_cons.mp member with isFirst | inRest
          · rw [isFirst]
            exact serves
          · exact serve b inRest
        · rw [List.length_cons]
          omega
        · exact run_cons_ok.mpr ⟨t, stepped, reached⟩

end State

/-- A second object is added while the writer is woken for the first one. -/
def addTwice : List (Step Nat) :=
  List.replicate 6 .writer ++ [.add 7, .notify, .add 8]

end ProcessPipe

end GroupVoip
