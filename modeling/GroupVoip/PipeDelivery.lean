import Mathlib.Data.List.Basic
import GroupVoip.ProcessPipe

/-!
# What arrives at the process

The writer thread hands the objects of `outBuffers_` to the process in the
order in which the producers added them.  It loses at most one, the one whose
write failed, and after `close` it hands over at most one more.
-/

namespace GroupVoip

open Library.Runs

namespace ProcessPipe

variable {α : Type}

/-- The objects that the producers added, in order. -/
def addedBy : List (Step α) → List α :=
  List.filterMap fun
    | .add inputObject => some inputObject
    | _ => none

/-- The number of writes that failed. -/
def failures : List (Step α) → Nat :=
  List.countP fun
    | .writeFailed => true
    | _ => false

theorem addedBy_append (first second : List (Step α)) :
    addedBy (first ++ second) = addedBy first ++ addedBy second :=
  List.filterMap_append

theorem failures_append (first second : List (Step α)) :
    failures (first ++ second) = failures first + failures second :=
  List.countP_append

namespace State

variable {s t : State α} {added : List α} {failed : Nat}

/-- The writer has an object in hand or is about to take one. -/
def Handing (s : State α) : Prop :=
  s.writer = .remove ∨ s.writer = .write

/-- Where the objects are that were added, if so many writes failed. -/
structure Accounts (added : List α) (failed : Nat) (s : State α) : Prop where
  inOrder : ∃ lost, lost.length = failed ∧
    added = s.written ++ lost ++ s.removed.toList ++ s.outBuffers
  stops : failed ≠ 0 →
    failed = 1 ∧ s.bShouldContWriterThread = false ∧ ¬ s.Handing
  notEmpty : s.writer = .drainFlag ∨ s.writer = .remove → s.outBuffers ≠ []
  inHand : s.removed.isSome ↔ s.writer = .write

theorem accounts_start : Accounts [] 0 ({} : State α) where
  inOrder := ⟨[], rfl, rfl⟩
  stops := fun broken => absurd rfl broken
  notEmpty := fun tested => by simp at tested
  inHand := by simp

/-- As long as the writer hands over, nothing was lost. -/
theorem Accounts.complete (accounts : Accounts added failed s)
    (handing : s.Handing) :
    failed = 0 ∧ added = s.written ++ s.removed.toList ++ s.outBuffers := by
  have intact : failed = 0 := by
    by_cases broken : failed = 0
    · exact broken
    · exact absurd handing (accounts.stops broken).2.2
  obtain ⟨lost, length, split⟩ := accounts.inOrder
  rw [intact, List.length_eq_zero_iff] at length
  rw [length, List.append_nil] at split
  exact ⟨intact, split⟩

/-- The object that is handed over is there. -/
theorem Accounts.ahead (accounts : Accounts added failed s)
    (handing : s.Handing) : s.removed.toList ++ s.outBuffers ≠ [] := by
  rcases handing with atRemove | atWrite
  · have some := accounts.notEmpty (.inr atRemove)
    simp [some]
  · obtain ⟨inputObject, held⟩ := Option.isSome_iff_exists.mp
      (accounts.inHand.mpr atWrite)
    simp [held]

/-- The steps that neither move an object nor start to hand one over. -/
theorem Accounts.idle (accounts : Accounts added failed s)
    (idle : ¬ s.Handing) (stays : ¬ t.Handing)
    (tested : t.writer = .drainFlag → t.outBuffers ≠ [])
    (written : t.written = s.written) (removed : t.removed = s.removed)
    (outBuffers : t.outBuffers = s.outBuffers)
    (flag : s.bShouldContWriterThread = false →
      t.bShouldContWriterThread = false) : Accounts added failed t where
  inOrder := by
    rw [written, removed, outBuffers]
    exact accounts.inOrder
  stops := fun broken =>
    have ⟨one, unset, _⟩ := accounts.stops broken
    ⟨one, flag unset, stays⟩
  notEmpty := by
    rintro (atTest | atRemove)
    · exact tested atTest
    · exact absurd (.inl atRemove) stays
  inHand := by
    rw [removed, accounts.inHand]
    exact iff_of_false (fun atWrite => idle (.inr atWrite))
      (fun atWrite => stays (.inr atWrite))

theorem Accounts.remove (accounts : Accounts added failed s)
    (here : s.writer = .remove) :
    Accounts added failed { s with
      removed := s.outBuffers.head?
      outBuffers := s.outBuffers.tail
      writer := .write } := by
  obtain ⟨intact, complete⟩ := accounts.complete (.inl here)
  have empty : s.removed = none := by
    have held := accounts.inHand
    rw [here] at held
    simpa using held
  obtain ⟨first, rest, split⟩ :=
    List.exists_cons_of_ne_nil (accounts.notEmpty (.inr here))
  rw [empty, split] at complete
  refine ⟨⟨[], intact.symm, ?_⟩, fun broken => absurd intact broken, ?_, ?_⟩
  · rw [split, complete]
    simp
  · rintro (atTest | atRemove)
    · cases atTest
    · cases atRemove
  · simp [split]

theorem Accounts.write (accounts : Accounts added failed s)
    (here : s.writer = .write) :
    Accounts added failed { s with
      written := s.written ++ s.removed.toList
      removed := none
      writer := .drainTest } := by
  obtain ⟨intact, complete⟩ := accounts.complete (.inr here)
  refine ⟨⟨[], intact.symm, ?_⟩, fun broken => absurd intact broken, ?_, ?_⟩
  · rw [complete]
    simp
  · rintro (atTest | atRemove)
    · cases atTest
    · cases atRemove
  · simp

theorem Accounts.writerStep (accounts : Accounts added failed s)
    (stepped : s.writerStep = .ok t) : Accounts added failed t := by
  rw [State.writerStep] at stepped
  cases here : s.writer with
  | drainTest =>
      rw [here] at stepped
      cases stepped
      refine accounts.idle (by simp [Handing, here]) ?_ ?_ rfl rfl rfl id
      · by_cases empty : s.outBuffers = [] <;> simp [Handing, empty]
      · by_cases empty : s.outBuffers = [] <;> simp [empty]
  | drainFlag =>
      rw [here] at stepped
      cases stepped
      have idle : ¬ s.Handing := by simp [Handing, here]
      by_cases set : s.bShouldContWriterThread = true
      · refine ⟨accounts.inOrder, ?_, ?_, ?_⟩
        · intro broken
          have unset := (accounts.stops broken).2.1
          rw [set] at unset
          cases unset
        · exact fun _ => accounts.notEmpty (.inl here)
        · rw [accounts.inHand, here]
          simp [set]
      · exact accounts.idle idle (by simp [Handing, set]) (by simp [set]) rfl
          rfl rfl id
  | remove =>
      rw [here] at stepped
      cases stepped
      exact accounts.remove here
  | write =>
      rw [here] at stepped
      cases stepped
      exact accounts.write here
  | outerTest | emptyTest | emptyFlag =>
      rw [here] at stepped
      cases stepped
      refine accounts.idle (by simp [Handing, here]) ?_ ?_ rfl rfl rfl id
      · simp only [Handing]
        split <;> simp
      · split <;> simp
  | enter | callWait | woken | leave =>
      rw [here] at stepped
      cases stepped
      exact accounts.idle (by simp [Handing, here]) (by simp [Handing])
        (by simp) rfl rfl rfl id
  | waiting | exited =>
      rw [here] at stepped
      cases stepped

/-- The object in hand is lost, and the writer takes no other one. -/
theorem Accounts.writeFailed (accounts : Accounts added failed s)
    (stepped : s.writeFailed = .ok t) : Accounts added (failed + 1) t := by
  rw [State.writeFailed] at stepped
  by_cases here : s.writer = .write
  · rw [if_pos here] at stepped
    cases stepped
    obtain ⟨intact, complete⟩ := accounts.complete (.inr here)
    obtain ⟨lost, held⟩ := Option.isSome_iff_exists.mp
      (accounts.inHand.mpr here)
    refine ⟨⟨[lost], by rw [intact]; rfl, ?_⟩, ?_, ?_, ?_⟩
    · rw [complete, held]
      simp
    · exact fun _ => ⟨by rw [intact], rfl, by simp [Handing]⟩
    · simp
    · simp
  · rw [if_neg here] at stepped
    cases stepped

theorem Accounts.add (accounts : Accounts added failed s) (inputObject : α) :
    Accounts (added ++ [inputObject]) failed { s with
      outBuffers := s.outBuffers ++ [inputObject]
      pendingNotifies := s.pendingNotifies + 1 } := by
  obtain ⟨lost, length, split⟩ := accounts.inOrder
  refine ⟨⟨lost, length, ?_⟩, accounts.stops, ?_, accounts.inHand⟩
  · rw [split]
    simp only [List.append_assoc]
  · exact fun _ => by simp

/-- Only the flag is cleared. -/
theorem Accounts.close (accounts : Accounts added failed s) :
    Accounts added failed { s with
      bShouldContWriterThread := false
      pendingNotifies := s.pendingNotifies + 1 } where
  inOrder := accounts.inOrder
  stops := fun broken =>
    have ⟨one, _, idle⟩ := accounts.stops broken
    ⟨one, rfl, idle⟩
  notEmpty := accounts.notEmpty
  inHand := accounts.inHand

/-- The writer leaves the wait set and nothing else changes. -/
theorem Accounts.wake (accounts : Accounts added failed s)
    (waits : s.writer = .waiting) (pending : Nat) :
    Accounts added failed
      { s with writer := .woken, pendingNotifies := pending } :=
  accounts.idle (by simp [Handing, waits]) (by simp [Handing]) (by simp) rfl
    rfl rfl id

theorem Accounts.notify (accounts : Accounts added failed s)
    (stepped : s.notify = .ok t) : Accounts added failed t := by
  rw [State.notify] at stepped
  by_cases enabled : s.monitorFree ∧ 0 < s.pendingNotifies
  · rw [if_pos enabled] at stepped
    cases stepped
    by_cases waits : s.writer = .waiting
    · rw [if_pos waits]
      exact accounts.wake waits _
    · rw [if_neg waits]
      exact ⟨accounts.inOrder, accounts.stops, accounts.notEmpty,
        accounts.inHand⟩
  · rw [if_neg enabled] at stepped
    cases stepped

theorem Accounts.spuriousWakeup (accounts : Accounts added failed s)
    (stepped : s.spuriousWakeup = .ok t) : Accounts added failed t := by
  rw [State.spuriousWakeup] at stepped
  by_cases waits : s.writer = .waiting
  · rw [if_pos waits] at stepped
    cases stepped
    exact accounts.wake waits _
  · rw [if_neg waits] at stepped
    cases stepped

theorem Accounts.act {a : Step α} (accounts : Accounts added failed s)
    (stepped : s.act a = .ok t) :
    Accounts (added ++ addedBy [a]) (failed + failures [a]) t := by
  cases a with
  | add inputObject =>
      cases stepped
      exact accounts.add inputObject
  | close =>
      cases stepped
      simpa [addedBy, failures] using accounts.close
  | notify => simpa [addedBy, failures] using accounts.notify stepped
  | writer => simpa [addedBy, failures] using accounts.writerStep stepped
  | writeFailed => simpa [addedBy, failures] using accounts.writeFailed stepped
  | spuriousWakeup =>
      simpa [addedBy, failures] using accounts.spuriousWakeup stepped

theorem accounts_of_run {steps : List (Step α)}
    (reached : run State.act {} steps = .ok s) :
    Accounts (addedBy steps) (failures steps) s := by
  refine run_history
    (fun taken u => Accounts (addedBy taken) (failures taken) u) ?_
    accounts_start reached
  intro taken u a next accounts stepped
  rw [addedBy_append, failures_append]
  exact accounts.act stepped

/-! ## What is still to be written -/

/-- The object in hand and the objects that wait. -/
def pending (s : State α) : List α :=
  s.removed.toList ++ s.outBuffers

/-- What a step hands over, if the write does not fail. -/
def handed (s : State α) : Step α → List α
  | .writer => if s.writer = .write then s.removed.toList else []
  | _ => []

theorem written_writerStep (stepped : s.writerStep = .ok t) :
    t.written = s.written ++ s.handed .writer := by
  rw [State.writerStep] at stepped
  rw [handed]
  cases here : s.writer with
  | write =>
      rw [here] at stepped
      cases stepped
      rw [if_pos rfl]
  | waiting | exited =>
      rw [here] at stepped
      cases stepped
  | _ =>
      rw [here] at stepped
      cases stepped
      simp

theorem written_act {a : Step α} (stepped : s.act a = .ok t) :
    t.written = s.written ++ s.handed a := by
  cases a with
  | add inputObject =>
      cases stepped
      exact (List.append_nil _).symm
  | close =>
      cases stepped
      exact (List.append_nil _).symm
  | notify =>
      rw [State.act, State.notify] at stepped
      split at stepped
      · cases stepped
        exact (List.append_nil _).symm
      · cases stepped
  | writer => exact written_writerStep stepped
  | writeFailed =>
      rw [State.act, State.writeFailed] at stepped
      split at stepped
      · cases stepped
        exact (List.append_nil _).symm
      · cases stepped
  | spuriousWakeup =>
      rw [State.act, State.spuriousWakeup] at stepped
      split at stepped
      · cases stepped
        exact (List.append_nil _).symm
      · cases stepped

/-- While no write fails, what was pending or is added is handed over or still
pending, in order. -/
theorem Accounts.pending_act {a : Step α} (accounts : Accounts added 0 s)
    (intact : failures [a] = 0) (stepped : s.act a = .ok t) :
    s.pending ++ addedBy [a] = s.handed a ++ t.pending := by
  have before := accounts.inOrder
  have after := (accounts.act stepped).inOrder
  rw [intact] at after
  obtain ⟨lost, nothing, split⟩ := before
  obtain ⟨lost', nothing', split'⟩ := after
  rw [List.length_eq_zero_iff.mp nothing] at split
  rw [List.length_eq_zero_iff.mp nothing', split, written_act stepped]
    at split'
  have both : s.written ++ (s.pending ++ addedBy [a]) =
      s.written ++ (s.handed a ++ t.pending) := by
    simpa [pending] using split'
  exact List.append_cancel_left both

/-! ## After `close` -/

/-- At most the object that came first is written after `written`. -/
structure Closing (written : List α) (first : Option α) (s : State α) :
    Prop where
  unset : s.bShouldContWriterThread = false
  held : s.Handing →
    s.written = written ∧ (s.removed.toList ++ s.outBuffers).head? = first
  sent : ∃ last, s.written = written ++ last ∧ last.IsPrefix first.toList

theorem Closing.writerStep {written : List α} {first : Option α}
    (closing : Closing written first s) (accounts : Accounts added failed s)
    (stepped : s.writerStep = .ok t) : Closing written first t := by
  rw [State.writerStep] at stepped
  cases here : s.writer with
  | remove =>
      rw [here] at stepped
      cases stepped
      obtain ⟨same, head⟩ := closing.held (.inl here)
      have empty : s.removed = none := by
        have inHand := accounts.inHand
        rw [here] at inHand
        simpa using inHand
      refine ⟨closing.unset, fun _ => ⟨same, ?_⟩, closing.sent⟩
      rw [← head, empty]
      cases s.outBuffers with
      | nil => rfl
      | cons inputObject rest => rfl
  | write =>
      rw [here] at stepped
      cases stepped
      obtain ⟨same, head⟩ := closing.held (.inr here)
      obtain ⟨inputObject, inHand⟩ := Option.isSome_iff_exists.mp
        (accounts.inHand.mpr here)
      refine ⟨closing.unset, by simp [Handing], ⟨[inputObject], ?_, ?_⟩⟩
      · rw [same, inHand]
        rfl
      · rw [← head, inHand]
        exact List.prefix_refl _
  | drainFlag =>
      rw [here] at stepped
      cases stepped
      refine ⟨closing.unset, ?_, closing.sent⟩
      simp [Handing, closing.unset]
  | outerTest | drainTest | emptyTest | emptyFlag =>
      rw [here] at stepped
      cases stepped
      refine ⟨closing.unset, ?_, closing.sent⟩
      simp only [Handing]
      split <;> simp
  | enter | callWait | woken | leave =>
      rw [here] at stepped
      cases stepped
      exact ⟨closing.unset, by simp [Handing], closing.sent⟩
  | waiting | exited =>
      rw [here] at stepped
      cases stepped

theorem Closing.act {written : List α} {first : Option α} {a : Step α}
    (closing : Closing written first s) (accounts : Accounts added failed s)
    (stepped : s.act a = .ok t) : Closing written first t := by
  cases a with
  | add inputObject =>
      cases stepped
      refine ⟨closing.unset, ?_, closing.sent⟩
      intro handing
      obtain ⟨same, head⟩ := closing.held handing
      have ahead := accounts.ahead handing
      refine ⟨same, ?_⟩
      rw [← List.append_assoc, List.head?_append_of_ne_nil _ ahead]
      exact head
  | close =>
      cases stepped
      exact ⟨rfl, closing.held, closing.sent⟩
  | notify =>
      rw [State.act, State.notify] at stepped
      by_cases enabled : s.monitorFree ∧ 0 < s.pendingNotifies
      · rw [if_pos enabled] at stepped
        cases stepped
        refine ⟨closing.unset, ?_, closing.sent⟩
        by_cases waits : s.writer = .waiting
        · simp [Handing, waits]
        · rw [if_neg waits]
          exact closing.held
      · rw [if_neg enabled] at stepped
        cases stepped
  | writer => exact closing.writerStep accounts stepped
  | writeFailed =>
      rw [State.act, State.writeFailed] at stepped
      by_cases here : s.writer = .write
      · rw [if_pos here] at stepped
        cases stepped
        exact ⟨rfl, by simp [Handing], closing.sent⟩
      · rw [if_neg here] at stepped
        cases stepped
  | spuriousWakeup =>
      rw [State.act, State.spuriousWakeup] at stepped
      by_cases waits : s.writer = .waiting
      · rw [if_pos waits] at stepped
        cases stepped
        exact ⟨closing.unset, by simp [Handing], closing.sent⟩
      · rw [if_neg waits] at stepped
        cases stepped

theorem closing_of_run {before after : List (Step α)} {closed : State α}
    (reachedClose : run State.act {} before = .ok closed)
    (reached : run State.act closed (.close :: after) = .ok s) :
    Closing closed.written (closed.removed.toList ++ closed.outBuffers).head?
      s := by
  obtain ⟨next, stepped, continued⟩ := run_cons_ok.mp reached
  cases stepped
  have accounts := accounts_of_run reachedClose
  have closing : Closing closed.written
      (closed.removed.toList ++ closed.outBuffers).head?
      { closed with
        bShouldContWriterThread := false
        pendingNotifies := closed.pendingNotifies + 1 } :=
    ⟨rfl, fun _ => ⟨rfl, rfl⟩, ⟨[], by simp, List.nil_prefix⟩⟩
  refine (run_invariant
    (fun u => (∃ added failed, Accounts added failed u) ∧ Closing _ _ u) ?_
    ⟨⟨_, _, accounts.close⟩, closing⟩ continued).2
  rintro u a next ⟨⟨added, failed, accountsHere⟩, closingHere⟩ steppedTo
  exact ⟨⟨_, _, accountsHere.act steppedTo⟩,
    closingHere.act accountsHere steppedTo⟩

end State

/-- Three objects are added; the write of the second one fails. -/
def addThreeFailOne : List (Step Nat) :=
  [.add 7, .add 8, .add 9] ++ List.replicate 8 .writer ++ [.writeFailed]

/-- Behind a `close` at most one more object is written: the one in hand, or
else the first one waiting. -/
theorem delivered_afterClose {before after : List (Step α)}
    {closed final : State α}
    (reachedClose : run State.act {} before = .ok closed)
    (reached : run State.act closed (.close :: after) = .ok final) :
    ∃ last, final.written = closed.written ++ last ∧
      last.IsPrefix (closed.removed.toList ++ closed.outBuffers).head?.toList :=
  (State.closing_of_run reachedClose reached).sent

/-- The pipe is closed while the writer is about to remove the first of two
objects. -/
def closeAtRemove : List (Step Nat) :=
  .close :: List.replicate 6 .writer

theorem delivered_afterClose_atRemove :
    ∃ closed final,
      run State.act {} ([.add 7, .add 8] ++ List.replicate 3 .writer) =
        .ok closed ∧
      run State.act closed closeAtRemove = .ok final ∧
      final.written = [7] ∧ final.writer = .exited ∧
      ∃ last, final.written = closed.written ++ last ∧
        last.IsPrefix
          (closed.removed.toList ++ closed.outBuffers).head?.toList := by
  have ran : (run State.act {}
      (([.add 7, .add 8] ++ List.replicate 3 .writer) ++ closeAtRemove)).map
      (fun s => (s.written, s.writer)) = .ok ([7], .exited) := by
    decide +kernel
  obtain ⟨final, reached, ends⟩ := map_ok.mp ran
  obtain ⟨written, writer⟩ := Prod.mk.inj ends
  obtain ⟨closed, reachedClose, continued⟩ := run_append_ok.mp reached
  exact ⟨closed, final, reachedClose, continued, written, writer,
    delivered_afterClose reachedClose continued⟩

end ProcessPipe

end GroupVoip
