import GroupVoip.Library.Runs

/-!
# The writer thread of ProcessPipe

Producers append to `outBuffers_` and then notify under the monitor of
`writerThreadSyncObject_`; the writer drains the buffers, tests outside the
monitor whether they are empty, and then waits under it.  A notify that falls
between the test and the wait is missed.
-/

namespace GroupVoip

open Library.Runs

namespace ProcessPipe

/-- What the writer thread does next.  It holds the monitor at `callWait` and
at `leave`, and is in the wait set at `waiting`. -/
inductive WriterPoint where
  | outerTest
  | drainTest
  | drainFlag
  | remove
  | write
  | emptyTest
  | emptyFlag
  | enter
  | callWait
  | waiting
  | woken
  | leave
  | exited
deriving DecidableEq, Repr

/-- `pendingNotifies` counts the producers and closers between their change
and their notify. -/
structure State (α : Type) where
  outBuffers : List α := []
  bShouldContWriterThread : Bool := true
  writer : WriterPoint := .outerTest
  removed : Option α := none
  written : List α := []
  pendingNotifies : Nat := 0
deriving DecidableEq, Repr

inductive Step (α : Type) where
  | add (inputObject : α)
  | close
  | notify
  | writer
  | writeFailed
  | spuriousWakeup
deriving DecidableEq, Repr

namespace State

variable {α : Type} (s : State α)

/-- Nobody is in the monitor. -/
def monitorFree : Prop :=
  s.writer ≠ .callWait ∧ s.writer ≠ .leave

instance : Decidable s.monitorFree :=
  inferInstanceAs (Decidable (_ ∧ _))

/-- `synchronized (writerThreadSyncObject_) { notify(); }` -/
def notify : Except Unit (State α) :=
  if s.monitorFree ∧ 0 < s.pendingNotifies then
    .ok { s with
      pendingNotifies := s.pendingNotifies - 1
      writer := if s.writer = .waiting then .woken else s.writer }
  else .error ()

/-- The next step of `tryToWrite`. -/
def writerStep : Except Unit (State α) :=
  match s.writer with
  | .outerTest =>
      .ok { s with
        writer := if s.bShouldContWriterThread then .drainTest else .exited }
  | .drainTest =>
      .ok { s with
        writer := if s.outBuffers = [] then .emptyTest else .drainFlag }
  | .drainFlag =>
      .ok { s with
        writer := if s.bShouldContWriterThread then .remove else .emptyTest }
  | .remove =>
      .ok { s with
        removed := s.outBuffers.head?
        outBuffers := s.outBuffers.tail
        writer := .write }
  | .write =>
      .ok { s with
        written := s.written ++ s.removed.toList
        removed := none
        writer := .drainTest }
  | .emptyTest =>
      .ok { s with
        writer := if s.outBuffers = [] then .emptyFlag else .outerTest }
  | .emptyFlag =>
      .ok { s with
        writer := if s.bShouldContWriterThread then .enter else .outerTest }
  | .enter => .ok { s with writer := .callWait }
  | .callWait => .ok { s with writer := .waiting }
  | .waiting => .error ()
  | .woken => .ok { s with writer := .leave }
  | .leave => .ok { s with writer := .emptyTest }
  | .exited => .error ()

/-- The exception of `out_.write` ends the thread. -/
def writeFailed : Except Unit (State α) :=
  if s.writer = .write then
    .ok { s with
      removed := none, bShouldContWriterThread := false, writer := .drainTest }
  else .error ()

def spuriousWakeup : Except Unit (State α) :=
  if s.writer = .waiting then .ok { s with writer := .woken } else .error ()

def act : Step α → Except Unit (State α)
  | .add inputObject =>
      .ok { s with
        outBuffers := s.outBuffers ++ [inputObject]
        pendingNotifies := s.pendingNotifies + 1 }
  | .close =>
      .ok { s with
        bShouldContWriterThread := false
        pendingNotifies := s.pendingNotifies + 1 }
  | .notify => s.notify
  | .writer => s.writerStep
  | .writeFailed => s.writeFailed
  | .spuriousWakeup => s.spuriousWakeup

/-- There is something for the writer to do. -/
def Busy : Prop :=
  s.outBuffers ≠ [] ∨ s.bShouldContWriterThread = false

instance : Decidable s.Busy :=
  inferInstanceAs (Decidable (_ ∨ _))

/-- The writer waits although it has something to do, and nobody is going to
notify it. -/
def Stuck : Prop :=
  s.writer = .waiting ∧ s.Busy ∧ s.pendingNotifies = 0

/-- The writer will wait although it has something to do, unless somebody
notifies it later. -/
def HeadsForWait : Prop :=
  match s.writer with
  | .emptyFlag => s.outBuffers ≠ [] ∧ s.bShouldContWriterThread = true
  | .enter | .callWait | .waiting => s.Busy
  | _ => False

instance : Decidable s.Stuck :=
  inferInstanceAs (Decidable (_ ∧ _))

instance : Decidable s.HeadsForWait :=
  match here : s.writer with
  | .emptyFlag =>
      decidable_of_iff
        (s.outBuffers ≠ [] ∧ s.bShouldContWriterThread = true)
        (by simp [HeadsForWait, here])
  | .enter | .callWait | .waiting =>
      decidable_of_iff s.Busy (by simp [HeadsForWait, here])
  | .outerTest | .drainTest | .drainFlag | .remove | .write | .emptyTest
  | .woken | .leave | .exited => isFalse (by simp [HeadsForWait, here])

/-- A notify is noticed unless it is the last one pending and the writer is
between its test and its wait. -/
def Noticed : Step α → Prop
  | .notify =>
      s.writer ≠ .waiting → s.HeadsForWait → 1 < s.pendingNotifies
  | _ => True

instance : ∀ a : Step α, Decidable (s.Noticed a)
  | .notify => inferInstanceAs (Decidable (_ → _ → _))
  | .add _ | .close | .writer | .writeFailed | .spuriousWakeup => isTrue trivial

/-! ## The notify that is still to come -/

variable {s} {s' : State α}

/-- Whoever waits for nothing is going to be notified. -/
def Inv (s : State α) : Prop :=
  s.HeadsForWait → 0 < s.pendingNotifies

theorem inv_notify (noticed : s.Noticed .notify)
    (stepped : s.notify = .ok s') : s'.Inv := by
  rw [State.notify] at stepped
  by_cases enabled : s.monitorFree ∧ 0 < s.pendingNotifies
  · rw [if_pos enabled] at stepped
    cases stepped
    intro heads
    by_cases waits : s.writer = .waiting
    · simp [HeadsForWait, waits] at heads
    · have before : s.HeadsForWait := by
        simpa [HeadsForWait, waits, Busy] using heads
      have others : 1 < s.pendingNotifies := noticed waits before
      show 0 < s.pendingNotifies - 1
      omega
  · rw [if_neg enabled] at stepped
    cases stepped

/-- The writer heads for its wait with an empty queue or a notify to come. -/
theorem Inv.writerStep (inv : s.Inv) (stepped : s.writerStep = .ok s') :
    s'.Inv := by
  intro heads
  rw [State.writerStep] at stepped
  cases here : s.writer with
  | emptyTest =>
      rw [here] at stepped
      cases stepped
      by_cases empty : s.outBuffers = []
      · simp [HeadsForWait, empty] at heads
      · simp [HeadsForWait, empty] at heads
  | emptyFlag =>
      rw [here] at stepped
      cases stepped
      by_cases set : s.bShouldContWriterThread = true
      · apply inv
        rw [HeadsForWait, here]
        simp only [HeadsForWait, Busy, set, if_true] at heads
        simpa [set] using heads
      · simp [HeadsForWait, set] at heads
  | enter =>
      rw [here] at stepped
      cases stepped
      apply inv
      rw [HeadsForWait, here]
      exact heads
  | callWait =>
      rw [here] at stepped
      cases stepped
      apply inv
      rw [HeadsForWait, here]
      exact heads
  | outerTest =>
      rw [here] at stepped
      cases stepped
      by_cases set : s.bShouldContWriterThread = true <;>
        simp [HeadsForWait, set] at heads
  | drainTest =>
      rw [here] at stepped
      cases stepped
      by_cases empty : s.outBuffers = [] <;>
        simp [HeadsForWait, empty] at heads
  | drainFlag =>
      rw [here] at stepped
      cases stepped
      by_cases set : s.bShouldContWriterThread = true <;>
        simp [HeadsForWait, set] at heads
  | remove | write | woken | leave =>
      rw [here] at stepped
      cases stepped
      exact heads.elim
  | waiting | exited =>
      rw [here] at stepped
      cases stepped

theorem Inv.act (inv : s.Inv) {a : Step α} (noticed : s.Noticed a)
    (stepped : s.act a = .ok s') : s'.Inv := by
  cases a with
  | add inputObject =>
      cases stepped
      exact fun _ => Nat.succ_pos _
  | close =>
      cases stepped
      exact fun _ => Nat.succ_pos _
  | notify => exact inv_notify noticed stepped
  | writer => exact inv.writerStep stepped
  | writeFailed =>
      simp only [State.act, State.writeFailed] at stepped
      split at stepped
      · cases stepped
        exact fun heads => heads.elim
      · cases stepped
  | spuriousWakeup =>
      simp only [State.act, State.spuriousWakeup] at stepped
      split at stepped
      · cases stepped
        exact fun heads => heads.elim
      · cases stepped

/-- What is waited for in vain would be notified. -/
theorem Inv.not_stuck (inv : s.Inv) : ¬ s.Stuck := by
  rintro ⟨waits, busy, nobody⟩
  have heads : s.HeadsForWait := by
    rw [HeadsForWait, waits]
    exact busy
  have someone := inv heads
  omega

/-- Behind its tests the writer goes on to wait. -/
theorem run_enter (here : s.writer = .enter) :
    run State.act s (List.replicate 2 .writer) =
      .ok { s with writer := .waiting } := by
  have first : s.act .writer = .ok { s with writer := .callWait } := by
    rw [State.act, State.writerStep, here]
  rw [List.replicate, run_cons, first]
  rfl

theorem run_emptyFlag (here : s.writer = .emptyFlag)
    (set : s.bShouldContWriterThread = true) :
    run State.act s (List.replicate 3 .writer) =
      .ok { s with writer := .waiting } := by
  have first : s.act .writer = .ok { s with writer := .enter } := by
    rw [State.act, State.writerStep, here, set]
    rfl
  rw [List.replicate, run_cons, first]
  exact run_enter rfl

/-- The condition is exact: after a notify that is not noticed the writer's
own steps lead to a wait without end. -/
theorem stuck_of_not_noticed (missed : ¬ s.Noticed .notify)
    (stepped : s.notify = .ok s') :
    ∃ count stuck, run State.act s' (List.replicate count .writer) =
      .ok stuck ∧ stuck.Stuck := by
  simp only [Noticed, Classical.not_imp] at missed
  obtain ⟨awake, heads, last⟩ := missed
  rw [State.notify] at stepped
  by_cases enabled : s.monitorFree ∧ 0 < s.pendingNotifies
  · rw [if_pos enabled, if_neg awake, Except.ok.injEq] at stepped
    have nobody : s'.pendingNotifies = 0 := by
      rw [← stepped]
      show s.pendingNotifies - 1 = 0
      omega
    have writer : s'.writer = s.writer := by rw [← stepped]
    have busy : s'.Busy ↔ s.Busy := by rw [← stepped]; rfl
    have set : s'.bShouldContWriterThread = s.bShouldContWriterThread := by
      rw [← stepped]
    rw [HeadsForWait] at heads
    cases here : s.writer with
    | emptyFlag =>
        rw [here] at heads writer
        refine ⟨3, _, run_emptyFlag writer (set.trans heads.2), rfl, ?_, nobody⟩
        exact busy.mpr (.inl heads.1)
    | enter =>
        rw [here] at heads writer
        exact ⟨2, _, run_enter writer, rfl, busy.mpr heads, nobody⟩
    | callWait => exact absurd here enabled.1.1
    | waiting => exact absurd here awake
    | _ =>
        rw [here] at heads
        exact heads.elim
  · rw [if_neg enabled] at stepped
    cases stepped

end State

/-- In every interleaving in which no notify is missed, the writer is never
stuck. -/
theorem writer_notStuck {α : Type} {steps : List (Step α)} {final : State α}
    (noticed : EveryStep State.act State.Noticed {} steps)
    (reached : run State.act {} steps = .ok final) : ¬ final.Stuck := by
  have initial : State.Inv ({} : State α) := fun heads => False.elim heads
  have inv := run_invariant_of_everyStep State.Inv
    (fun s a t inv meets stepped => inv.act meets stepped) initial noticed
    reached
  exact inv.not_stuck

/-- A producer that comes while the writer waits. -/
def addWhileWaiting : List (Step Nat) :=
  List.replicate 6 .writer ++ [.add 7, .notify]

theorem writer_notStuck_addWhileWaiting :
    ∃ final, run State.act {} addWhileWaiting = .ok final ∧
      final.writer = .woken ∧ ¬ final.Stuck := by
  have noticed : EveryStep State.act State.Noticed {} addWhileWaiting := by
    decide +kernel
  have ran : (run State.act {} addWhileWaiting).map State.writer =
      .ok .woken := by
    decide +kernel
  obtain ⟨final, reached, writer⟩ := map_ok.mp ran
  exact ⟨final, reached, writer, writer_notStuck noticed reached⟩

/-- A producer that comes between the writer's test and its wait. -/
def addBeforeWait : List (Step Nat) :=
  List.replicate 3 .writer ++ [.add 7, .notify] ++ List.replicate 3 .writer

theorem writer_stuck_addBeforeWait :
    ∃ final, run State.act {} addBeforeWait = .ok final ∧ final.Stuck := by
  have ran : (run State.act {} addBeforeWait).map
      (fun s => decide s.Stuck) = .ok true := by
    decide +kernel
  obtain ⟨final, reached, stuck⟩ := map_ok.mp ran
  exact ⟨final, reached, of_decide_eq_true stuck⟩

end ProcessPipe

end GroupVoip
