import Mathlib.Data.Nat.Bitwise
import Mathlib.Tactic.Ring

/-!
# Bits of a byte string

The bits of a string are counted through its bytes, the highest bit of a byte
first.  Beyond the end there are only zeros, so that zeros at the end make no
difference.
-/

namespace GroupVoip.Library.Bits

def bitAt (s : List UInt8) (k : Nat) : Bool :=
  (s.getD (k / 8) 0).toNat.testBit (7 - k % 8)

theorem bitAt_append_zeros (s : List UInt8) (m k : Nat) :
    bitAt (s ++ List.replicate m 0) k = bitAt s k := by
  have sameByte :
      (s ++ List.replicate m 0).getD (k / 8) 0 = s.getD (k / 8) 0 := by
    by_cases inside : k / 8 < s.length
    · exact List.getD_append _ _ _ _ inside
    · rw [List.getD_append_right _ _ _ _ (by omega),
        List.getD_eq_default s 0 (by omega), List.getD_eq_getElem?_getD,
        List.getElem?_replicate]
      split <;> rfl
  rw [bitAt, sameByte, bitAt]

/-- A byte in which one bit is replaced replaces one bit of the string. -/
theorem bitAt_set {s : List UInt8} {k : Nat} {c : UInt8} {b : Bool}
    (inside : k / 8 < s.length)
    (replaced : ∀ j, j < 8 → c.toNat.testBit j =
      if j = 7 - k % 8 then b else (s.getD (k / 8) 0).toNat.testBit j)
    (i : Nat) :
    bitAt (s.set (k / 8) c) i = if i = k then b else bitAt s i := by
  by_cases sameByte : i / 8 = k / 8
  · have isNew : (s.set (k / 8) c).getD (i / 8) 0 = c := by
      rw [sameByte, List.getD_eq_getElem?_getD, List.getElem?_set_self inside]
      rfl
    rw [bitAt, isNew, replaced _ (by omega), bitAt, sameByte]
    by_cases sameBit : i = k
    · rw [if_pos (by omega), if_pos sameBit]
    · rw [if_neg (by omega), if_neg sameBit]
  · have isOld : (s.set (k / 8) c).getD (i / 8) 0 = s.getD (i / 8) 0 := by
      rw [List.getD_eq_getElem?_getD, List.getElem?_set_ne (Ne.symm sameByte),
        List.getD_eq_getElem?_getD]
    rw [bitAt, isOld, if_neg (by omega), bitAt]

/-- Nothing changes but the `n` bits from bit `o` on. -/
def AgreeOutside (s s' : List UInt8) (o n : Nat) : Prop :=
  ∀ k, k < o ∨ o + n ≤ k → bitAt s' k = bitAt s k

theorem AgreeOutside.append {s s' s'' : List UInt8} {o m n : Nat}
    (first : AgreeOutside s s' o m) (second : AgreeOutside s' s'' (o + m) n) :
    AgreeOutside s s'' o (m + n) := by
  intro k outside
  calc bitAt s'' k = bitAt s' k := second k (by omega)
    _ = bitAt s k := first k (by omega)

/-- The lowest `n` bits of `v` stand at bit `o`, the highest of them first. -/
def Holds (s : List UInt8) (o n v : Nat) : Prop :=
  ∀ j, j < n → bitAt s (o + j) = v.testBit (n - 1 - j)

instance (s : List UInt8) (o n v : Nat) : Decidable (Holds s o n v) :=
  inferInstanceAs (Decidable (∀ j, j < n → _))

theorem AgreeOutside.holds_iff {s s' : List UInt8} {o n o' n' : Nat}
    (agree : AgreeOutside s s' o' n') (apart : o + n ≤ o' ∨ o' + n' ≤ o)
    (v : Nat) : Holds s' o n v ↔ Holds s o n v := by
  apply forall₂_congr
  intro j isInside
  rw [agree (o + j) (by omega)]

theorem Holds.push {s : List UInt8} {o n r : Nat} (holds : Holds s o n r) :
    Holds s o (n + 1) (2 * r + (bitAt s (o + n)).toNat) := by
  intro j isInside
  by_cases isLast : j = n
  · rw [isLast, show n + 1 - 1 - n = 0 by omega, Nat.testBit_zero]
    cases bitAt s (o + n) with
    | false => simp
    | true => simp
  · have before : n + 1 - 1 - j = (n - 1 - j) + 1 := by omega
    have half : (2 * r + (bitAt s (o + n)).toNat) / 2 = r := by
      have small := Bool.toNat_lt (bitAt s (o + n))
      omega
    rw [before, Nat.testBit_add_one, half]
    exact holds j (by omega)

theorem Holds.cons {s : List UInt8} {o n v : Nat}
    (first : bitAt s o = v.testBit n) (others : Holds s (o + 1) n v) :
    Holds s o (n + 1) v := by
  intro j isInside
  cases j with
  | zero => exact first
  | succ j =>
      calc bitAt s (o + (j + 1)) = bitAt s (o + 1 + j) :=
            congrArg (bitAt s) (by omega)
        _ = v.testBit (n - 1 - j) := others j (by omega)
        _ = v.testBit (n + 1 - 1 - (j + 1)) := congrArg v.testBit (by omega)

/-- What stands somewhere is known up to the bits beyond the width. -/
theorem Holds.iff_eq_mod {s : List UInt8} {o n r : Nat}
    (holds : Holds s o n r) (small : r < 2 ^ n) (v : Nat) :
    Holds s o n v ↔ r = v % 2 ^ n := by
  have bits : ∀ j, j < n →
      r.testBit j = bitAt s (o + (n - 1 - j)) := by
    intro j isInside
    rw [holds _ (by omega), show n - 1 - (n - 1 - j) = j by omega]
  constructor
  · intro holdsToo
    apply Nat.eq_of_testBit_eq
    intro j
    rw [Nat.testBit_mod_two_pow]
    by_cases isInside : j < n
    · rw [bits j isInside, holdsToo _ (by omega),
        show n - 1 - (n - 1 - j) = j by omega]
      simp [isInside]
    · have beyond : r < 2 ^ j :=
        lt_of_lt_of_le small (Nat.pow_le_pow_right (by decide) (by omega))
      rw [Nat.testBit_lt_two_pow beyond]
      simp [isInside]
  · intro same j isInside
    rw [holds j isInside, same, Nat.testBit_mod_two_pow]
    simp [show n - 1 - j < n by omega]

/-! ## Fields in a row -/

/-- The values and widths of fields, and how many bits they are together. -/
def totalWidth (fields : List (Nat × Nat)) : Nat :=
  (fields.map Prod.snd).sum

@[simp]
theorem totalWidth_cons (v n : Nat) (rest : List (Nat × Nat)) :
    totalWidth ((v, n) :: rest) = n + totalWidth rest := by
  rw [totalWidth, List.map_cons, List.sum_cons, totalWidth]

/-- The fields stand one behind the other from bit `o` on. -/
def HoldsAll (s : List UInt8) : Nat → List (Nat × Nat) → Prop
  | _, [] => True
  | o, (v, n) :: rest => Holds s o n v ∧ HoldsAll s (o + n) rest

instance HoldsAll.decidable (s : List UInt8) :
    ∀ (o : Nat) (fields : List (Nat × Nat)), Decidable (HoldsAll s o fields)
  | _, [] => inferInstanceAs (Decidable True)
  | o, (v, n) :: rest =>
      have := HoldsAll.decidable s (o + n) rest
      inferInstanceAs (Decidable (Holds s o n v ∧ HoldsAll s (o + n) rest))

theorem AgreeOutside.holdsAll_iff {s s' : List UInt8} {o' n' : Nat}
    (agree : AgreeOutside s s' o' n') (fields : List (Nat × Nat)) :
    ∀ o, o + totalWidth fields ≤ o' ∨ o' + n' ≤ o →
      (HoldsAll s' o fields ↔ HoldsAll s o fields) := by
  induction fields with
  | nil => exact fun o apart => Iff.rfl
  | cons field rest inductionHypothesis =>
      obtain ⟨v, n⟩ := field
      intro o apart
      rw [totalWidth_cons] at apart
      exact and_congr (agree.holds_iff (by omega) v)
        (inductionHypothesis (o + n) (by omega))

end GroupVoip.Library.Bits
