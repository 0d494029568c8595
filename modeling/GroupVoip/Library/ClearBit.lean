import Mathlib.Data.Finset.Card
import Mathlib.Data.Finset.Range

/-!
# The lowest clear bit

A bit set is the finite set of the indexes of its bits.  Going up from zero
and stopping at the first bit that is clear takes at most as many steps as
bits are set.
-/

namespace GroupVoip.Library.ClearBit

/-- Look for a clear bit from `i` on, for a number of turns. -/
def clearFrom (bits : Finset Nat) : Nat → Nat → Nat
  | 0, i => i
  | turns + 1, i => if i ∈ bits then clearFrom bits turns (i + 1) else i

def lowestClear (bits : Finset Nat) : Nat :=
  clearFrom bits bits.card 0

theorem mem_of_lt_clearFrom (bits : Finset Nat) (turns : Nat) :
    ∀ i j, i ≤ j → j < clearFrom bits turns i → j ∈ bits := by
  induction turns with
  | zero =>
      intro i j from_ before
      exact absurd (Nat.lt_of_le_of_lt from_ before) (Nat.lt_irrefl i)
  | succ turns inductionHypothesis =>
      intro i j from_ before
      rw [clearFrom] at before
      split at before
      · rename_i isSet
        rcases Nat.eq_or_lt_of_le from_ with same | later
        · rw [← same]
          exact isSet
        · exact inductionHypothesis (i + 1) j later before
      · exact absurd (Nat.lt_of_le_of_lt from_ before) (Nat.lt_irrefl i)

/-- A search that ends at a set bit has used up its turns. -/
theorem clearFrom_of_mem (bits : Finset Nat) (turns : Nat) :
    ∀ i, clearFrom bits turns i ∈ bits → clearFrom bits turns i = i + turns := by
  induction turns with
  | zero =>
      intro i _
      rfl
  | succ turns inductionHypothesis =>
      intro i isSet
      rw [clearFrom] at isSet ⊢
      split at isSet
      · rename_i first
        rw [if_pos first, inductionHypothesis (i + 1) isSet]
        omega
      · rename_i first
        exact absurd isSet first

theorem lowestClear_not_mem (bits : Finset Nat) : lowestClear bits ∉ bits := by
  intro isSet
  have atEnd : lowestClear bits = bits.card :=
    (clearFrom_of_mem bits bits.card 0 isSet).trans (Nat.zero_add _)
  have below : Finset.range (bits.card + 1) ⊆ bits := by
    intro j member
    rcases Nat.eq_or_lt_of_le (Nat.le_of_lt_succ (Finset.mem_range.mp member))
      with same | before
    · rw [same, ← atEnd]
      exact isSet
    · rw [← atEnd] at before
      exact mem_of_lt_clearFrom bits bits.card 0 j (Nat.zero_le j) before
  have many := Finset.card_le_card below
  rw [Finset.card_range] at many
  omega

/-- Every bit below the lowest clear one is set. -/
theorem lowestClear_le {bits : Finset Nat} {i : Nat} (clear : i ∉ bits) :
    lowestClear bits ≤ i := by
  by_contra above
  exact clear (mem_of_lt_clearFrom bits bits.card 0 i (Nat.zero_le i)
    (Nat.lt_of_not_le above))

theorem lowestClear_le_card (bits : Finset Nat) :
    lowestClear bits ≤ bits.card := by
  have below : Finset.range (lowestClear bits) ⊆ bits := by
    intro j member
    exact mem_of_lt_clearFrom bits bits.card 0 j (Nat.zero_le j)
      (Finset.mem_range.mp member)
  have many := Finset.card_le_card below
  rw [Finset.card_range] at many
  exact many

end GroupVoip.Library.ClearBit
