import Mathlib.Data.Finset.Card
import Mathlib.Data.Finset.Range
import Mathlib.Data.Nat.Bitwise
import Mathlib.Data.Nat.Factorization.Basic
import Mathlib.Tactic.Ring

/-!
# Counting bits by clearing the lowest

`n &&& (n - 1)` is `n` without its least significant bit set.  Clearing until
nothing is left takes as many turns as there are bits set.
-/

namespace GroupVoip.Library.BitCount

/-- The positions below `width` of the bits set in a number. -/
def setBits (width n : Nat) : Finset Nat :=
  (Finset.range width).filter fun i => n.testBit i

theorem mem_setBits {width n i : Nat} :
    i ∈ setBits width n ↔ i < width ∧ n.testBit i = true := by
  simp [setBits]

theorem exists_cleared {n : Nat} (nonzero : n ≠ 0) :
    ∃ lowest, n.testBit lowest = true ∧
      ∀ i, (n &&& (n - 1)).testBit i = (n.testBit i && i ≠ lowest) := by
  obtain ⟨lowest, odd, isOdd, rfl⟩ := Nat.exists_eq_two_pow_mul_odd nonzero
  obtain ⟨half, rfl⟩ := isOdd
  have positive : 0 < 2 ^ lowest := Nat.two_pow_pos lowest
  have double : 2 ^ (lowest + 1) = 2 * 2 ^ lowest := Nat.pow_succ'
  have whole :
      2 ^ lowest * (2 * half + 1) = 2 ^ (lowest + 1) * half + 2 ^ lowest := by
    rw [double]
    ring
  have below :
      2 ^ lowest * (2 * half + 1) - 1 =
        2 ^ (lowest + 1) * half + (2 ^ lowest - 1) := by
    rw [whole]
    omega
  refine ⟨lowest, ?_, ?_⟩
  · rw [whole, Nat.testBit_two_pow_mul_add _ (by omega)]
    simp
  · intro i
    rw [Nat.testBit_and, below, whole,
      Nat.testBit_two_pow_mul_add _ (by omega),
      Nat.testBit_two_pow_mul_add _ (by omega)]
    rcases Nat.lt_trichotomy i lowest with lower | rfl | higher
    · have inside : i < lowest + 1 := by omega
      have different : lowest ≠ i := by omega
      simp [inside, Nat.testBit_two_pow_of_ne different]
    · simp [Nat.testBit_two_pow_sub_one]
    · have outside : ¬ i < lowest + 1 := by omega
      have different : i ≠ lowest := by omega
      simp [outside, different]

/-- Clearing makes the set of bits smaller by one. -/
theorem card_setBits_cleared {width n : Nat} (nonzero : n ≠ 0)
    (fits : n < 2 ^ width) :
    (setBits width (n &&& (n - 1))).card + 1 = (setBits width n).card := by
  obtain ⟨lowest, isSet, cleared⟩ := exists_cleared nonzero
  have inside : lowest < width := by
    by_contra outside
    have large : n < 2 ^ lowest :=
      lt_of_lt_of_le fits (Nat.pow_le_pow_right (by omega) (by omega))
    rw [Nat.testBit_lt_two_pow large] at isSet
    cases isSet
  have erased :
      setBits width (n &&& (n - 1)) = (setBits width n).erase lowest := by
    ext i
    simp only [Finset.mem_erase, mem_setBits, cleared, Bool.and_eq_true,
      decide_eq_true_eq]
    tauto
  have member : lowest ∈ setBits width n := mem_setBits.mpr ⟨inside, isSet⟩
  rw [erased, Finset.card_erase_add_one member]

theorem setBits_zero (width : Nat) : setBits width 0 = ∅ := by
  ext i
  simp [mem_setBits]

end GroupVoip.Library.BitCount
