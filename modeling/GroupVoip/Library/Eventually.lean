import Mathlib.Logic.Function.Iterate
import Mathlib.Order.WellFounded

/-!
# What repeated steps lead to

A deterministic program is a step function on its states.  It leads to a
property when some number of steps reaches it.  A program that waits for a
counter to grow large enough gets past the wait, and a program all of whose
rounds make some measure smaller comes to an end.
-/

namespace GroupVoip.Library.Eventually

variable {σ : Type} {step : σ → σ} {P Q : σ → Prop} {s : σ}

/-- Some number of steps from `s` reaches `P`. -/
def Leads (step : σ → σ) (P : σ → Prop) (s : σ) : Prop :=
  ∃ n, P (step^[n] s)

theorem Leads.here (holds : P s) : Leads step P s :=
  ⟨0, holds⟩

theorem Leads.next (later : Leads step P (step s)) : Leads step P s := by
  obtain ⟨n, holds⟩ := later
  refine ⟨n + 1, ?_⟩
  rw [Function.iterate_succ_apply]
  exact holds

theorem Leads.andThen (first : Leads step P s)
    (second : ∀ t, P t → Leads step Q t) : Leads step Q s := by
  obtain ⟨n, reached⟩ := first
  obtain ⟨m, holds⟩ := second _ reached
  refine ⟨m + n, ?_⟩
  rw [Function.iterate_add_apply]
  exact holds

theorem Leads.mono (first : Leads step P s) (weaken : ∀ t, P t → Q t) :
    Leads step Q s :=
  first.andThen fun t holds => .here (weaken t holds)

/-- A wait ends when every turn of it raises a counter and the turn at a
high enough counter is the last. -/
theorem leads_of_wait {W : σ → Prop} (count : σ → Nat) (enough : Nat)
    (waits : ∀ s, W s →
      Q (step s) ∨ W (step s) ∧ count s < count (step s) ∧ count s < enough)
    (waiting : W s) : Leads step Q s := by
  obtain ⟨left, bound⟩ : ∃ left, enough - count s ≤ left := ⟨_, Nat.le_refl _⟩
  induction left generalizing s with
  | zero =>
      rcases waits s waiting with done | ⟨-, -, below⟩
      · exact .next (.here done)
      · omega
  | succ left inductionHypothesis =>
      rcases waits s waiting with done | ⟨again, higher, below⟩
      · exact .next (.here done)
      · exact .next (inductionHypothesis again (by omega))

/-- Rounds that make a well-founded measure smaller come to an end. -/
theorem leads_of_rounds {ι : Type} {smaller : ι → ι → Prop} (measure : σ → ι)
    (wellFounded : WellFounded smaller) {Inv : σ → Prop}
    (rounds : ∀ s, Inv s →
      Leads step (fun t => Q t ∨ Inv t ∧ smaller (measure t) (measure s)) s)
    (invariant : Inv s) : Leads step Q s := by
  obtain ⟨m, same⟩ : ∃ m, measure s = m := ⟨_, rfl⟩
  induction m using wellFounded.induction generalizing s with
  | _ m inductionHypothesis =>
      refine (rounds s invariant).andThen ?_
      rintro t (done | ⟨again, less⟩)
      · exact .here done
      · exact inductionHypothesis _ (same ▸ less) again rfl

end GroupVoip.Library.Eventually
