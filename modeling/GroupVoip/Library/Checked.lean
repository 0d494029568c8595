import GroupVoip.Library.Runs

/-!
# Checked computations

A computation with more checks than another may stop earlier, but what it
returns the other returns too; and a computation may be known to stop for some
reasons only.  The rules follow the shape of the programs.
-/

namespace GroupVoip.Library.Checked

open GroupVoip.Library.Runs

variable {ε ε' α β : Type}

/-- Whatever the checked computation returns, the plain one returns. -/
def Checks (checked : Except ε α) (plain : Except ε' α) : Prop :=
  ∀ r, checked = .ok r → plain = .ok r

theorem Checks.returns (r : α) :
    Checks (.ok r : Except ε α) (.ok r : Except ε' α) := by
  intro other same
  cases same
  rfl

theorem Checks.stopped (stopped : ε) (plain : Except ε' α) :
    Checks (.error stopped) plain := by
  intro other same
  cases same

theorem Checks.bind {x : Except ε α} {y : Except ε' α}
    {f : α → Except ε β} {g : α → Except ε' β}
    (first : Checks x y) (second : ∀ a, Checks (f a) (g a)) :
    Checks (x >>= f) (y >>= g) := by
  intro r returned
  obtain ⟨a, isFirst, isSecond⟩ := bind_ok.mp returned
  exact bind_ok.mpr ⟨a, first a isFirst, second a r isSecond⟩

/-- A step of the checked computation alone. -/
theorem Checks.check {x : Except ε α} {f : α → Except ε β}
    {plain : Except ε' β} (rest : ∀ a, x = .ok a → Checks (f a) plain) :
    Checks (x >>= f) plain := by
  intro r returned
  obtain ⟨a, isFirst, isSecond⟩ := bind_ok.mp returned
  exact rest a isFirst r isSecond

theorem Checks.branch {c : Prop} [Decidable c] {x x' : Except ε α}
    {y y' : Except ε' α} (whenTrue : c → Checks x y)
    (whenFalse : ¬ c → Checks x' y') :
    Checks (if c then x else x') (if c then y else y') := by
  split
  · rename_i holds
    exact whenTrue holds
  · rename_i fails
    exact whenFalse fails

/-! ## Reasons to stop -/

section Reasons

variable {Reason : ε → Prop}

/-- The computation returns, or stops for such a reason. -/
def StopsFor (Reason : ε → Prop) (x : Except ε α) : Prop :=
  ∀ stopped, x = .error stopped → Reason stopped

theorem StopsFor.returns (r : α) : StopsFor Reason (.ok r) := by
  intro stopped same
  cases same

theorem StopsFor.stops {stopped : ε} (reason : Reason stopped) :
    StopsFor Reason (.error stopped : Except ε α) := by
  intro other same
  cases same
  exact reason

theorem StopsFor.bind {x : Except ε α} {f : α → Except ε β}
    (first : StopsFor Reason x)
    (second : ∀ a, x = .ok a → StopsFor Reason (f a)) :
    StopsFor Reason (x >>= f) := by
  intro stopped failed
  rcases bind_error.mp failed with here | ⟨a, isFirst, later⟩
  · exact first stopped here
  · exact second a isFirst stopped later

theorem StopsFor.run {σ : Type} {step : σ → α → Except ε σ}
    (steps_stop : ∀ s a, StopsFor Reason (step s a)) (start : σ)
    (steps : List α) : StopsFor Reason (run step start steps) := by
  induction steps generalizing start with
  | nil => exact StopsFor.returns start
  | cons a rest inductionHypothesis =>
      exact StopsFor.bind (steps_stop start a)
        fun next _ => inductionHypothesis next

end Reasons

end GroupVoip.Library.Checked
