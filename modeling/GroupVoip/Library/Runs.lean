import Mathlib.Logic.Basic
import Mathlib.Tactic.Common

/-!
# Runs of a partial step function

A step function returns the next state or stops with an error.  A run takes
the steps of a list in order and stops at the first error.  The rules below
turn facts about one step into facts about every step that a run reaches.
-/

namespace GroupVoip.Library.Runs

variable {σ α ε β : Type}

theorem bind_ok {x : Except ε α} {f : α → Except ε β} {b : β} :
    (x >>= f) = .ok b ↔ ∃ a, x = .ok a ∧ f a = .ok b := by
  cases x with
  | error stopped => simp [Bind.bind, Except.bind]
  | ok a => simp [Bind.bind, Except.bind]

theorem bind_error {x : Except ε α} {f : α → Except ε β} {stopped : ε} :
    (x >>= f) = .error stopped ↔
      x = .error stopped ∨ ∃ a, x = .ok a ∧ f a = .error stopped := by
  cases x with
  | error other => simp [Bind.bind, Except.bind]
  | ok a => simp [Bind.bind, Except.bind]

theorem map_ok {x : Except ε α} {f : α → β} {b : β} :
    x.map f = .ok b ↔ ∃ a, x = .ok a ∧ f a = b := by
  cases x with
  | error stopped => simp [Except.map]
  | ok a => simp [Except.map]

theorem exists_ok {x : Except ε α} (succeeds : x.isOk = true) :
    ∃ a, x = .ok a := by
  cases x with
  | error stopped => cases succeeds
  | ok a => exact ⟨a, rfl⟩

def run (step : σ → α → Except ε σ) (start : σ) (steps : List α) :
    Except ε σ :=
  steps.foldlM step start

@[simp]
theorem run_nil (step : σ → α → Except ε σ) (start : σ) :
    run step start [] = .ok start :=
  rfl

@[simp]
theorem run_cons
    (step : σ → α → Except ε σ) (start : σ) (a : α) (rest : List α) :
    run step start (a :: rest) =
      (step start a).bind fun next => run step next rest :=
  rfl

theorem run_append
    (step : σ → α → Except ε σ) (start : σ) (first second : List α) :
    run step start (first ++ second) =
      (run step start first).bind fun middle => run step middle second := by
  simp only [run, List.foldlM_append]
  rfl

theorem run_cons_ok
    {step : σ → α → Except ε σ} {start final : σ} {a : α} {rest : List α} :
    run step start (a :: rest) = .ok final ↔
      ∃ next, step start a = .ok next ∧ run step next rest = .ok final := by
  rw [run_cons]
  cases step start a with
  | error stopped => simp [Except.bind]
  | ok next => simp [Except.bind]

theorem run_append_ok
    {step : σ → α → Except ε σ} {start final : σ} {first second : List α} :
    run step start (first ++ second) = .ok final ↔
      ∃ middle, run step start first = .ok middle ∧
        run step middle second = .ok final := by
  rw [run_append]
  cases run step start first with
  | error stopped => simp [Except.bind]
  | ok middle => simp [Except.bind]

/-- A run seen through `f` is a run of the step function seen through `f`. -/
theorem run_map {τ : Type} {step : σ → α → Except ε σ}
    {seen : τ → α → Except ε τ} (f : σ → τ)
    (steps_map : ∀ s a, (step s a).map f = seen (f s) a) (start : σ)
    (steps : List α) :
    (run step start steps).map f = run seen (f start) steps := by
  induction steps generalizing start with
  | nil => rfl
  | cons a rest inductionHypothesis =>
      rw [run_cons, run_cons, ← steps_map]
      cases step start a with
      | error stopped => rfl
      | ok next => exact inductionHypothesis next

def stoppedBy : Except ε α → Option ε
  | .error stopped => some stopped
  | .ok _ => none

theorem stoppedBy_eq_some {x : Except ε α} {stopped : ε} :
    stoppedBy x = some stopped ↔ x = .error stopped := by
  cases x with
  | error other => simp [stoppedBy]
  | ok a => simp [stoppedBy]

/-- A run that stops at its last step stops because of it. -/
theorem step_error_of_run
    {step : σ → α → Except ε σ} {start middle : σ} {before : List α} {a : α}
    {stopped : ε} (reached : run step start before = .ok middle)
    (failed : run step start (before ++ [a]) = .error stopped) :
    step middle a = .error stopped := by
  rw [run_append, reached, Except.bind, run_cons] at failed
  cases stepped : step middle a with
  | error other =>
      rw [stepped] at failed
      exact failed
  | ok next =>
      rw [stepped] at failed
      cases failed

/-- A run whose steps cannot stop is a fold. -/
theorem run_eq_foldl
    {step : σ → α → Except ε σ} {next : σ → α → σ} {steps : List α}
    (steppedBy : ∀ a, a ∈ steps → ∀ s, step s a = .ok (next s a)) :
    ∀ start, run step start steps = .ok (steps.foldl next start) := by
  induction steps with
  | nil => exact fun start => rfl
  | cons a rest inductionHypothesis =>
      intro start
      rw [List.forall_mem_cons] at steppedBy
      rw [run_cons, steppedBy.1 start, List.foldl_cons]
      exact inductionHypothesis steppedBy.2 (next start a)

/-- Every step of a run that ends was taken from somewhere. -/
theorem exists_step_of_run
    {step : σ → α → Except ε σ} {start final : σ} {steps : List α} {a : α}
    (reached : run step start steps = .ok final) (member : a ∈ steps) :
    ∃ s t, step s a = .ok t := by
  obtain ⟨before, after, split⟩ := List.append_of_mem member
  rw [split] at reached
  obtain ⟨s, _, continued⟩ := run_append_ok.mp reached
  obtain ⟨t, stepped, _⟩ := run_cons_ok.mp continued
  exact ⟨s, t, stepped⟩

/-- A property kept by every step holds at the end of every run. -/
theorem run_invariant
    {step : σ → α → Except ε σ} (Inv : σ → Prop)
    (preserved : ∀ s a t, Inv s → step s a = .ok t → Inv t)
    {start final : σ} {steps : List α}
    (initial : Inv start) (reached : run step start steps = .ok final) :
    Inv final := by
  induction steps generalizing start with
  | nil =>
      cases reached
      exact initial
  | cons a rest inductionHypothesis =>
      obtain ⟨next, stepped, continued⟩ := run_cons_ok.mp reached
      exact inductionHypothesis (preserved _ _ _ initial stepped) continued

/-- A property of the steps taken so far and of where they lead. -/
theorem run_history
    {step : σ → α → Except ε σ} (Inv : List α → σ → Prop)
    (preserved : ∀ taken s a t, Inv taken s → step s a = .ok t →
      Inv (taken ++ [a]) t)
    {start final : σ} {steps : List α}
    (initial : Inv [] start) (reached : run step start steps = .ok final) :
    Inv steps final := by
  have onwards : ∀ (rest taken : List α) (s : σ), Inv taken s →
      run step s rest = .ok final → Inv (taken ++ rest) final := by
    intro rest
    induction rest with
    | nil =>
        intro taken s holds ended
        cases ended
        rw [List.append_nil]
        exact holds
    | cons a rest inductionHypothesis =>
        intro taken s holds continued
        obtain ⟨next, stepped, ended⟩ := run_cons_ok.mp continued
        have later := inductionHypothesis (taken ++ [a]) next
          (preserved _ _ _ _ holds stepped) ended
        rw [List.append_assoc] at later
        exact later
  exact onwards steps [] start initial reached

/-- Steps that can be taken wherever the property holds, and that keep it, can
all be taken. -/
theorem exists_run_invariant
    {step : σ → α → Except ε σ} (Inv : σ → Prop) {steps : List α}
    (turn : ∀ a, a ∈ steps → ∀ s, Inv s → ∃ t, step s a = .ok t ∧ Inv t) :
    ∀ start, Inv start → ∃ final, run step start steps = .ok final ∧
      Inv final := by
  induction steps with
  | nil => exact fun start initial => ⟨start, rfl, initial⟩
  | cons a rest inductionHypothesis =>
      intro start initial
      rw [List.forall_mem_cons] at turn
      obtain ⟨next, stepped, kept⟩ := turn.1 start initial
      obtain ⟨final, continued, isFinal⟩ :=
        inductionHypothesis turn.2 next kept
      exact ⟨final, run_cons_ok.mpr ⟨next, stepped, continued⟩, isFinal⟩

/-- A property that no step can restore holds at the start if it holds at the
end. -/
theorem run_invariant_reverse
    {step : σ → α → Except ε σ} {P : σ → Prop}
    (lost : ∀ s a t, step s a = .ok t → P t → P s)
    {start final : σ} {steps : List α} (holds : P final)
    (reached : run step start steps = .ok final) : P start := by
  induction steps generalizing start with
  | nil =>
      cases reached
      exact holds
  | cons a rest inductionHypothesis =>
      obtain ⟨next, stepped, continued⟩ := run_cons_ok.mp reached
      exact lost _ _ _ stepped (inductionHypothesis continued)

/-- `P` holds of the state before, and of the step taken, at every step that
the run reaches. -/
def EveryStep (step : σ → α → Except ε σ) (P : σ → α → Prop) :
    σ → List α → Prop
  | _, [] => True
  | start, a :: rest =>
      P start a ∧
        ∀ next, step start a = .ok next → EveryStep step P next rest

/-- A run with decidable steps can be checked by taking it. -/
instance decidableEveryStep (step : σ → α → Except ε σ) (P : σ → α → Prop)
    [∀ s a, Decidable (P s a)] :
    ∀ (start : σ) (steps : List α), Decidable (EveryStep step P start steps)
  | _, [] => isTrue trivial
  | start, a :: rest =>
      match taken : step start a with
      | .error _ =>
          decidable_of_iff (P start a) <| by
            simp [EveryStep, taken]
      | .ok next =>
          have := decidableEveryStep step P next rest
          decidable_of_iff (P start a ∧ EveryStep step P next rest) <| by
            simp [EveryStep, taken]

/-- What holds at every step of a run holds at every step of its beginning. -/
theorem EveryStep.of_append_left
    {step : σ → α → Except ε σ} {P : σ → α → Prop} {start : σ}
    {first second : List α}
    (meets : EveryStep step P start (first ++ second)) :
    EveryStep step P start first := by
  induction first generalizing start with
  | nil => trivial
  | cons a rest inductionHypothesis =>
      exact ⟨meets.1, fun next stepped =>
        inductionHypothesis (meets.2 next stepped)⟩

/-- What holds at every step of a run holds at every step of its end. -/
theorem EveryStep.of_append
    {step : σ → α → Except ε σ} {P : σ → α → Prop} {start middle : σ}
    {first second : List α}
    (meets : EveryStep step P start (first ++ second))
    (reached : run step start first = .ok middle) :
    EveryStep step P middle second := by
  induction first generalizing start with
  | nil =>
      cases reached
      exact meets
  | cons a rest inductionHypothesis =>
      obtain ⟨next, stepped, continued⟩ := run_cons_ok.mp reached
      exact inductionHypothesis (meets.2 next stepped) continued

/-- `EveryStep` by prefixes: `P` holds wherever the run can be cut. -/
theorem everyStep_iff_forall_prefix
    {step : σ → α → Except ε σ} {P : σ → α → Prop}
    {start : σ} {steps : List α} :
    EveryStep step P start steps ↔
      ∀ before a after middle,
        steps = before ++ a :: after →
        run step start before = .ok middle → P middle a := by
  induction steps generalizing start with
  | nil =>
      simp [EveryStep]
  | cons head rest inductionHypothesis =>
      constructor
      · rintro ⟨holdsHere, holdsLater⟩ before a after middle split reached
        cases before with
        | nil =>
            cases reached
            cases split
            exact holdsHere
        | cons first others =>
            cases split
            obtain ⟨next, stepped, continued⟩ := run_cons_ok.mp reached
            exact inductionHypothesis.mp (holdsLater next stepped)
              others a after middle rfl continued
      · intro everywhere
        refine ⟨everywhere [] head rest start rfl rfl, ?_⟩
        intro next stepped
        apply inductionHypothesis.mpr
        intro before a after middle split reached
        refine everywhere (head :: before) a after middle ?_ ?_
        · rw [split]
          rfl
        · exact run_cons_ok.mpr ⟨next, stepped, reached⟩

theorem EveryStep.and
    {step : σ → α → Except ε σ} {P Q : σ → α → Prop} {start : σ}
    {steps : List α} (first : EveryStep step P start steps)
    (second : EveryStep step Q start steps) :
    EveryStep step (fun s a => P s a ∧ Q s a) start steps := by
  rw [ everyStep_iff_forall_prefix] at first second ⊢
  intro before a after middle split reached
  exact ⟨first before a after middle split reached,
    second before a after middle split reached⟩

/-- A property kept by the steps that meet `P` holds at the end of a run all
of whose steps meet `P`. -/
theorem run_invariant_of_everyStep
    {step : σ → α → Except ε σ} (Inv : σ → Prop) {P : σ → α → Prop}
    (preserved : ∀ s a t, Inv s → P s a → step s a = .ok t → Inv t)
    {start final : σ} {steps : List α}
    (initial : Inv start) (meets : EveryStep step P start steps)
    (reached : run step start steps = .ok final) :
    Inv final := by
  induction steps generalizing start with
  | nil =>
      cases reached
      exact initial
  | cons a rest inductionHypothesis =>
      obtain ⟨next, stepped, continued⟩ := run_cons_ok.mp reached
      exact inductionHypothesis
        (preserved _ _ _ initial meets.1 stepped)
        (meets.2 next stepped) continued

/-- Two step properties that agree in the states an invariant admits hold at
every step of the same runs.  The invariant only has to survive the steps
that meet the second one. -/
theorem everyStep_congr
    {step : σ → α → Except ε σ} (Inv : σ → Prop) {P Q : σ → α → Prop}
    (agree : ∀ s a, Inv s → (P s a ↔ Q s a))
    (preserved : ∀ s a t, Inv s → Q s a → step s a = .ok t → Inv t)
    {start : σ} {steps : List α} (initial : Inv start) :
    EveryStep step P start steps ↔ EveryStep step Q start steps := by
  induction steps generalizing start with
  | nil =>
      exact Iff.rfl
  | cons a rest inductionHypothesis =>
      constructor
      · rintro ⟨holds, later⟩
        have meets : Q start a := (agree start a initial).mp holds
        exact ⟨meets, fun next stepped =>
          (inductionHypothesis (preserved _ _ _ initial meets stepped)).mp
            (later next stepped)⟩
      · rintro ⟨meets, later⟩
        exact ⟨(agree start a initial).mpr meets, fun next stepped =>
          (inductionHypothesis (preserved _ _ _ initial meets stepped)).mpr
            (later next stepped)⟩

/-- Weaken the property asked of every step, in the states that an invariant
of such steps admits. -/
theorem EveryStep.mono
    {step : σ → α → Except ε σ} (Inv : σ → Prop) {P Q : σ → α → Prop}
    (weaken : ∀ s a, Inv s → P s a → Q s a)
    (preserved : ∀ s a t, Inv s → P s a → step s a = .ok t → Inv t)
    {start : σ} {steps : List α} (initial : Inv start)
    (meets : EveryStep step P start steps) :
    EveryStep step Q start steps := by
  induction steps generalizing start with
  | nil =>
      trivial
  | cons a rest inductionHypothesis =>
      refine ⟨weaken start a initial meets.1, ?_⟩
      intro next stepped
      exact inductionHypothesis (preserved _ _ _ initial meets.1 stepped)
        (meets.2 next stepped)

/-- A property that no step can restore holds at the end of a run exactly when
every step keeps it. -/
theorem run_iff_everyStep
    {step : σ → α → Except ε σ} (Inv : σ → Prop) {P : σ → Prop}
    {Q : σ → α → Prop}
    (kept_iff : ∀ s a t, Inv s → P s → step s a = .ok t → (P t ↔ Q s a))
    (preserved : ∀ s a t, Inv s → P s → Q s a → step s a = .ok t → Inv t)
    (lost : ∀ s a t, step s a = .ok t → P t → P s)
    {start final : σ} {steps : List α}
    (invariant : Inv start) (initial : P start)
    (reached : run step start steps = .ok final) :
    P final ↔ EveryStep step Q start steps := by
  induction steps generalizing start with
  | nil =>
      cases reached
      exact iff_of_true initial trivial
  | cons a rest inductionHypothesis =>
      obtain ⟨next, stepped, continued⟩ := run_cons_ok.mp reached
      have keeps := kept_iff start a next invariant initial stepped
      have goesOn (meets : Q start a) :=
        inductionHypothesis (preserved _ _ _ invariant initial meets stepped)
          (keeps.mpr meets) continued
      constructor
      · intro holds
        have kept : P next := by
          refine run_invariant_reverse lost ?_ continued
          exact holds
        refine ⟨keeps.mp kept, ?_⟩
        intro other steppedToo
        cases stepped.symm.trans steppedToo
        exact (goesOn (keeps.mp kept)).mp holds
      · intro meets
        exact (goesOn meets.1).mpr (meets.2 next stepped)

end GroupVoip.Library.Runs
