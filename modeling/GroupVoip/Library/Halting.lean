import Mathlib.Computability.StateTransition

/-!
# Runs that end and runs that do not

For a step function on states, a state that steps on ends where the next one
does, and a state in a set that every step stays in never ends.
-/

namespace GroupVoip.Library.Halting

open StateTransition

variable {σ : Type}

theorem eval_step {f : σ → Option σ} {s t : σ} (stepped : f s = some t) :
    eval f s = eval f t :=
  reaches_eval (Relation.ReflTransGen.single stepped)

theorem mem_eval_stopped {f : σ → Option σ} {s : σ} (stopped : f s = none) :
    s ∈ eval f s :=
  mem_eval.mpr ⟨Relation.ReflTransGen.refl, stopped⟩

/-- What the start has and every step keeps, the end has. -/
theorem eval_invariant {f : σ → Option σ} (Inv : σ → Prop)
    (kept : ∀ s t, Inv s → f s = some t → Inv t) {s final : σ} (start : Inv s)
    (ends : final ∈ eval f s) : Inv final := by
  have reached := (mem_eval.mp ends).1
  clear ends
  induction reached with
  | refl => exact start
  | tail _ stepped inductionHypothesis =>
      exact kept _ _ inductionHypothesis (Option.mem_def.mp stepped)

/-- A state that always steps on and stays inside a set has no end. -/
theorem not_mem_eval {f : σ → Option σ} (Inv : σ → Prop)
    (stays : ∀ s, Inv s → ∃ t, f s = some t ∧ Inv t) {s : σ} (start : Inv s)
    (final : σ) : final ∉ eval f s := by
  intro ends
  have kept : ∀ s t, Inv s → f s = some t → Inv t := by
    intro s t inside stepped
    obtain ⟨t', steppedToo, still⟩ := stays s inside
    rw [steppedToo] at stepped
    cases stepped
    exact still
  have inside := eval_invariant Inv kept start ends
  obtain ⟨t, stepped, _⟩ := stays final inside
  rw [(mem_eval.mp ends).2] at stepped
  cases stepped

end GroupVoip.Library.Halting
