import GroupVoip.Library.Runs

/-!
# Loops over arrays

A loop over distinct indexes whose turn at an index reads and writes the
entry at that index only.  After the loop every entry has been through its own
turn, and a counter raised by some of the turns counts the entries that raise
it.
-/

namespace GroupVoip.Library.Loops

open GroupVoip.Library.Runs

variable {ι σ τ ε : Type}

/-- The turns of a loop over the indexes of a list. -/
inductive Turns (turn : ι → σ → σ → Prop) : List ι → σ → σ → Prop
  | done (s : σ) : Turns turn [] s s
  | next {i : ι} {rest : List ι} {s t u : σ} (first : turn i s t)
      (others : Turns turn rest t u) : Turns turn (i :: rest) s u

theorem turns_foldl (f : σ → ι → σ) (indexes : List ι) (s : σ) :
    Turns (fun i s t => t = f s i) indexes s (indexes.foldl f s) := by
  induction indexes generalizing s with
  | nil => exact Turns.done _
  | cons i rest inductionHypothesis =>
      exact Turns.next rfl (inductionHypothesis (f s i))

theorem turns_run {step : σ → ι → Except ε σ} {indexes : List ι} {s t : σ}
    (reached : run step s indexes = .ok t) :
    Turns (fun i s t => step s i = .ok t) indexes s t := by
  induction indexes generalizing s with
  | nil =>
      cases reached
      exact Turns.done _
  | cons i rest inductionHypothesis =>
      obtain ⟨next, stepped, continued⟩ := run_cons_ok.mp reached
      exact Turns.next stepped (inductionHypothesis continued)

/-- A turn at an index leaves the entries at the other indexes alone. -/
def Frames (turn : ι → σ → σ → Prop) (view : σ → ι → τ) : Prop :=
  ∀ i s t, turn i s t → ∀ j, j ≠ i → view t j = view s j

theorem Turns.frame {turn : ι → σ → σ → Prop} {view : σ → ι → τ}
    {indexes : List ι} {s t : σ}
    (frames : Frames turn view) (looped : Turns turn indexes s t) :
    ∀ j, j ∉ indexes → view t j = view s j := by
  induction looped with
  | done s =>
      intro j _
      rfl
  | @next i rest s t u first others inductionHypothesis =>
      intro j absent
      have notFirst : j ≠ i := fun same => absent (by simp [same])
      have notRest : j ∉ rest := fun member => absent (by simp [member])
      rw [inductionHypothesis j notRest, frames i s t first j notFirst]

/-- Every entry goes through its own turn, once. -/
theorem Turns.entry {turn : ι → σ → σ → Prop} {view : σ → ι → τ}
    (entryTurn : ι → τ → τ → Prop) {indexes : List ι} {s t : σ}
    (frames : Frames turn view)
    (entries : ∀ i s t, turn i s t → entryTurn i (view s i) (view t i))
    (distinct : indexes.Nodup) (looped : Turns turn indexes s t) :
    ∀ i, i ∈ indexes → entryTurn i (view s i) (view t i) := by
  induction looped with
  | done s =>
      intro i member
      cases member
  | @next first rest s t u turned others inductionHypothesis =>
      obtain ⟨absent, restDistinct⟩ := List.nodup_cons.mp distinct
      intro i member
      rcases List.mem_cons.mp member with rfl | later
      · rw [others.frame frames i absent]
        exact entries i s t turned
      · have untouched : view t i = view s i := by
          apply frames first s t turned i
          rintro rfl
          exact absent later
        rw [← untouched]
        exact inductionHypothesis restDistinct i later

/-- A counter raised by the turns whose entry ends up as asked counts those
entries. -/
theorem Turns.count {turn : ι → σ → σ → Prop} {view : σ → ι → τ}
    {counter : σ → Nat} (asked : τ → Bool) {indexes : List ι} {s t : σ}
    (frames : Frames turn view)
    (raises : ∀ i s t, turn i s t →
      counter t = if asked (view t i) then counter s + 1 else counter s)
    (distinct : indexes.Nodup) (looped : Turns turn indexes s t) :
    counter t = counter s + indexes.countP fun i => asked (view t i) := by
  induction looped with
  | done s => rfl
  | @next first rest s t u turned others inductionHypothesis =>
      obtain ⟨absent, restDistinct⟩ := List.nodup_cons.mp distinct
      rw [inductionHypothesis restDistinct, raises first s t turned,
        List.countP_cons, others.frame frames first absent]
      cases asked (view t first) with
      | true =>
          simp only [if_true]
          omega
      | false =>
          simp

/-- A loop none of whose turns can stop runs to its end. -/
theorem run_total {step : σ → ι → Except ε σ} {view : σ → ι → τ}
    (fits : τ → Prop) (frames : Frames (fun i s t => step s i = .ok t) view)
    (steps : ∀ s i, fits (view s i) → ∃ t, step s i = .ok t)
    {indexes : List ι} (distinct : indexes.Nodup) {s : σ}
    (fit : ∀ i, i ∈ indexes → fits (view s i)) :
    ∃ t, run step s indexes = .ok t := by
  induction indexes generalizing s with
  | nil => exact ⟨s, rfl⟩
  | cons i rest inductionHypothesis =>
      obtain ⟨absent, restDistinct⟩ := List.nodup_cons.mp distinct
      obtain ⟨next, stepped⟩ := steps s i (fit i (by simp))
      have restFit : ∀ j, j ∈ rest → fits (view next j) := by
        intro j member
        have untouched : view next j = view s j := by
          apply frames i s next stepped j
          rintro rfl
          exact absent member
        rw [untouched]
        exact fit j (by simp [member])
      obtain ⟨final, continued⟩ := inductionHypothesis restDistinct restFit
      exact ⟨final, run_cons_ok.mpr ⟨next, stepped, continued⟩⟩

/-- A loop that goes down to index zero, with what holds when only the indexes
below `m` are left. -/
theorem run_downward {step : σ → Nat → Except ε σ} (Inv : Nat → σ → Prop)
    {n : Nat} (turn : ∀ m s, m < n → Inv (m + 1) s →
      ∃ t, step s m = .ok t ∧ Inv m t) :
    ∀ m s, m ≤ n → Inv m s →
      ∃ t, run step s (List.range m).reverse = .ok t ∧ Inv 0 t := by
  intro m
  induction m with
  | zero =>
      intro s _ inv
      exact ⟨s, rfl, inv⟩
  | succ m inductionHypothesis =>
      intro s within inv
      obtain ⟨next, stepped, nextInv⟩ := turn m s within inv
      obtain ⟨t, continued, final⟩ :=
        inductionHypothesis next (Nat.le_of_succ_le within) nextInv
      refine ⟨t, ?_, final⟩
      rw [List.range_succ, List.reverse_append, List.reverse_singleton,
        List.singleton_append]
      exact run_cons_ok.mpr ⟨next, stepped, continued⟩

/-- A loop that counts up to `n`, with what holds when the indexes below `m`
have had their turns. -/
theorem run_upward {step : σ → Nat → Except ε σ} (Inv : Nat → σ → Prop)
    {n : Nat} (turn : ∀ m s, m < n → Inv m s →
      ∃ t, step s m = .ok t ∧ Inv (m + 1) t) :
    ∀ m s, m ≤ n → Inv 0 s →
      ∃ t, run step s (List.range m) = .ok t ∧ Inv m t := by
  intro m s
  induction m with
  | zero =>
      intro _ inv
      exact ⟨s, rfl, inv⟩
  | succ m inductionHypothesis =>
      intro within inv
      obtain ⟨middle, reached, middleInv⟩ :=
        inductionHypothesis (Nat.le_of_succ_le within) inv
      obtain ⟨t, stepped, final⟩ := turn m middle within middleInv
      refine ⟨t, ?_, final⟩
      rw [List.range_succ]
      exact run_append_ok.mpr
        ⟨middle, reached, run_cons_ok.mpr ⟨t, stepped, rfl⟩⟩

end GroupVoip.Library.Loops
