import Mathlib.Algebra.Order.Group.Defs
import Mathlib.Order.Bounds.Basic

/-!
# Running extrema

An upper and a lower bound that are widened by one value after the other.  How
wide they are in the end depends on where they started.
-/

namespace GroupVoip.Library.Extents

variable {α : Type}

structure Extent (α : Type) where
  hi : α
  lo : α
deriving DecidableEq, Repr

namespace Extent

section Order

variable [LinearOrder α]

def widen (e : Extent α) (x : α) : Extent α where
  hi := if x > e.hi then x else e.hi
  lo := if x < e.lo then x else e.lo

theorem widen_hi (e : Extent α) (x : α) : (e.widen x).hi = max x e.hi := by
  rw [widen, max_comm]
  exact (max_def_lt e.hi x).symm

theorem widen_lo (e : Extent α) (x : α) : (e.widen x).lo = min x e.lo := by
  rw [widen]
  exact (min_def_lt x e.lo).symm

def widenAll (e : Extent α) (xs : List α) : Extent α :=
  xs.foldl widen e

theorem widenAll_append (e : Extent α) (xs ys : List α) :
    e.widenAll (xs ++ ys) = (e.widenAll xs).widenAll ys :=
  List.foldl_append

theorem widenAll_hi_le_iff (xs : List α) (b : α) :
    ∀ e : Extent α, (e.widenAll xs).hi ≤ b ↔
      e.hi ≤ b ∧ ∀ x, x ∈ xs → x ≤ b := by
  induction xs with
  | nil =>
      intro e
      simp [widenAll]
  | cons x rest inductionHypothesis =>
      intro e
      rw [widenAll, List.foldl_cons, ← widenAll, inductionHypothesis,
        widen_hi, max_le_iff, List.forall_mem_cons]
      exact ⟨fun all => ⟨all.1.2, all.1.1, all.2⟩,
        fun all => ⟨⟨all.2.1, all.1⟩, all.2.2⟩⟩

theorem le_widenAll_lo_iff (xs : List α) (b : α) :
    ∀ e : Extent α, b ≤ (e.widenAll xs).lo ↔
      b ≤ e.lo ∧ ∀ x, x ∈ xs → b ≤ x := by
  induction xs with
  | nil =>
      intro e
      simp [widenAll]
  | cons x rest inductionHypothesis =>
      intro e
      rw [widenAll, List.foldl_cons, ← widenAll, inductionHypothesis,
        widen_lo, le_min_iff, List.forall_mem_cons]
      exact ⟨fun all => ⟨all.1.2, all.1.1, all.2⟩,
        fun all => ⟨⟨all.2.1, all.1⟩, all.2.2⟩⟩

/-- The upper bound is where it was, or one of the values. -/
theorem widenAll_hi_mem (xs : List α) :
    ∀ e : Extent α, (e.widenAll xs).hi = e.hi ∨ (e.widenAll xs).hi ∈ xs := by
  induction xs with
  | nil => exact fun e => Or.inl rfl
  | cons x rest inductionHypothesis =>
      intro e
      rw [widenAll, List.foldl_cons, ← widenAll]
      rcases inductionHypothesis (e.widen x) with stays | member
      · rw [stays, widen_hi]
        rcases max_choice x e.hi with here | before
        · rw [here]
          exact Or.inr List.mem_cons_self
        · exact Or.inl before
      · exact Or.inr (List.mem_cons_of_mem _ member)

theorem widenAll_lo_mem (xs : List α) :
    ∀ e : Extent α, (e.widenAll xs).lo = e.lo ∨ (e.widenAll xs).lo ∈ xs := by
  induction xs with
  | nil => exact fun e => Or.inl rfl
  | cons x rest inductionHypothesis =>
      intro e
      rw [widenAll, List.foldl_cons, ← widenAll]
      rcases inductionHypothesis (e.widen x) with stays | member
      · rw [stays, widen_lo]
        rcases min_choice x e.lo with here | before
        · rw [here]
          exact Or.inr List.mem_cons_self
        · exact Or.inl before
      · exact Or.inr (List.mem_cons_of_mem _ member)

/-- Some of the values reach as far as the bounds do. -/
def ReachedBy (e : Extent α) (xs : List α) : Prop :=
  (∃ x, x ∈ xs ∧ e.hi ≤ x) ∧ ∃ x, x ∈ xs ∧ x ≤ e.lo

instance (e : Extent α) (xs : List α) : Decidable (e.ReachedBy xs) :=
  inferInstanceAs (Decidable ((∃ x, x ∈ xs ∧ _) ∧ ∃ x, x ∈ xs ∧ _))

theorem ReachedBy.hi_mem {e : Extent α} {xs : List α}
    (reached : e.ReachedBy xs) : (e.widenAll xs).hi ∈ xs := by
  obtain ⟨x, member, le⟩ := reached.1
  have above := ((widenAll_hi_le_iff xs _ e).mp le_rfl).2 x member
  rcases widenAll_hi_mem xs e with stays | isValue
  · rw [stays] at above ⊢
    rw [le_antisymm le above]
    exact member
  · exact isValue

theorem ReachedBy.lo_mem {e : Extent α} {xs : List α}
    (reached : e.ReachedBy xs) : (e.widenAll xs).lo ∈ xs := by
  obtain ⟨x, member, le⟩ := reached.2
  have below := ((le_widenAll_lo_iff xs _ e).mp le_rfl).2 x member
  rcases widenAll_lo_mem xs e with stays | isValue
  · rw [stays] at below ⊢
    rw [le_antisymm below le]
    exact member
  · exact isValue

end Order

section Width

variable [AddCommGroup α] [LinearOrder α] [IsOrderedAddMonoid α]

def width (e : Extent α) : α :=
  e.hi - e.lo

/-- The width is that of the values when they reach the bounds, which the
values of before have to stay within for that. -/
theorem width_widenAll_iff (e : Extent α) (xs : List α) :
    (∃ hi lo, IsGreatest {x | x ∈ xs} hi ∧ IsLeast {x | x ∈ xs} lo ∧
      (e.widenAll xs).width = hi - lo) ↔ e.ReachedBy xs := by
  have bounds := (widenAll_hi_le_iff xs _ e).mp le_rfl
  have boundsBelow := (le_widenAll_lo_iff xs _ e).mp le_rfl
  constructor
  · intro measured
    obtain ⟨hi, lo, greatest, least, width⟩ := measured
    have above : hi ≤ (e.widenAll xs).hi := bounds.2 hi greatest.1
    have below : (e.widenAll xs).lo ≤ lo := boundsBelow.2 lo least.1
    have sum : (e.widenAll xs).hi = hi - lo + (e.widenAll xs).lo := by
      rw [← width, Extent.width, sub_add_cancel]
    have sameHi : (e.widenAll xs).hi = hi := by
      refine le_antisymm ?_ above
      calc (e.widenAll xs).hi = hi - lo + (e.widenAll xs).lo := sum
        _ ≤ hi - lo + lo := add_le_add_right below _
        _ = hi := sub_add_cancel hi lo
    have sameLo : (e.widenAll xs).lo = lo := by
      rw [Extent.width, sameHi] at width
      exact sub_right_injective width
    refine ⟨⟨hi, greatest.1, ?_⟩, lo, least.1, ?_⟩
    · rw [← sameHi]
      exact bounds.1
    · rw [← sameLo]
      exact boundsBelow.1
  · intro reached
    exact ⟨_, _, ⟨reached.hi_mem, bounds.2⟩, ⟨reached.lo_mem, boundsBelow.2⟩,
      rfl⟩

end Width

end Extent

end GroupVoip.Library.Extents
