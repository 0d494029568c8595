import Mathlib.Tactic.Common
import Mathlib.Tactic.Ring

/-!
# Numbers on the wire

Little-endian and big-endian numbers as lists of bytes.  Writing keeps the
low bytes of a number; reading a written number gives it back modulo the
range that the width can hold.
-/

namespace GroupVoip.Library.WireBytes

/-- The low `width` bytes of a number, lowest first. -/
def toLE : (width n : Nat) → List UInt8
  | 0, _ => []
  | width + 1, n => UInt8.ofNat n :: toLE width (n / 256)

/-- The number whose bytes are given lowest first. -/
def ofLE : List UInt8 → Nat
  | [] => 0
  | b :: rest => b.toNat + 256 * ofLE rest

/-- The low `width` bytes of a number, highest first. -/
def toBE (width n : Nat) : List UInt8 :=
  (toLE width n).reverse

@[simp]
theorem length_toLE (width n : Nat) : (toLE width n).length = width := by
  induction width generalizing n with
  | zero => rfl
  | succ width inductionHypothesis => simp [toLE, inductionHypothesis]

@[simp]
theorem length_toBE (width n : Nat) : (toBE width n).length = width := by
  simp [toBE]

/-- Reading a written number drops only what the width cannot hold. -/
theorem ofLE_toLE (width n : Nat) :
    ofLE (toLE width n) = n % 256 ^ width := by
  induction width generalizing n with
  | zero => simp [toLE, ofLE, Nat.mod_one]
  | succ width inductionHypothesis =>
      have lowest : (UInt8.ofNat n).toNat = n % 256 := by
        simp
      rw [toLE, ofLE, inductionHypothesis, lowest, Nat.pow_succ', Nat.mod_mul]

theorem ofLE_toLE_of_lt {width n : Nat} (fits : n < 256 ^ width) :
    ofLE (toLE width n) = n := by
  rw [ofLE_toLE, Nat.mod_eq_of_lt fits]

/-- The number whose bytes are given highest first. -/
def ofBE (bytes : List UInt8) : Nat :=
  ofLE bytes.reverse

theorem ofBE_toBE_of_lt {width n : Nat} (fits : n < 256 ^ width) :
    ofBE (toBE width n) = n := by
  rw [ofBE, toBE, List.reverse_reverse, ofLE_toLE_of_lt fits]

/-- Any bytes are the written form of the number they spell. -/
theorem toLE_ofLE (bytes : List UInt8) :
    toLE bytes.length (ofLE bytes) = bytes := by
  induction bytes with
  | nil => rfl
  | cons b rest inductionHypothesis =>
      have small := b.toNat_lt
      have quotient : (b.toNat + 256 * ofLE rest) / 256 = ofLE rest := by
        omega
      have lowest : UInt8.ofNat (b.toNat + 256 * ofLE rest) = b := by
        apply UInt8.toNat_inj.mp
        rw [UInt8.toNat_ofNat']
        omega
      rw [List.length_cons, ofLE, toLE, quotient, lowest, inductionHypothesis]

theorem ofLE_lt (bytes : List UInt8) : ofLE bytes < 256 ^ bytes.length := by
  induction bytes with
  | nil => exact Nat.one_pos
  | cons b rest inductionHypothesis =>
      have small := b.toNat_lt
      rw [ofLE, List.length_cons, Nat.pow_succ]
      omega

theorem ofLE_four_lt (a b c d : UInt8) : ofLE [a, b, c, d] < 2 ^ 32 := by
  have := a.toNat_lt
  have := b.toNat_lt
  have := c.toNat_lt
  have := d.toNat_lt
  simp only [ofLE]
  omega

theorem toUInt8_shiftRight (t shift : UInt32) (small : shift.toNat < 32) :
    (t >>> shift).toUInt8 = UInt8.ofNat (t.toNat / 2 ^ shift.toNat) := by
  apply UInt8.toNat_inj.mp
  rw [UInt32.toNat_toUInt8, UInt32.toNat_shiftRight, UInt8.toNat_ofNat',
    Nat.mod_eq_of_lt small, Nat.shiftRight_eq_div_pow]

theorem toLE_toNat (t : UInt32) :
    toLE 4 t.toNat =
      [t.toUInt8, (t >>> 8).toUInt8, (t >>> 16).toUInt8,
        (t >>> 24).toUInt8] := by
  have lowest : t.toUInt8 = UInt8.ofNat t.toNat := rfl
  rw [toUInt8_shiftRight t 8 (by decide), toUInt8_shiftRight t 16 (by decide),
    toUInt8_shiftRight t 24 (by decide), lowest]
  simp only [toLE, Nat.div_div_eq_div_mul]
  rfl

/-! ## Numbers put together by shifts -/

/-- A byte fills the gap that a shift by eight leaves. -/
theorem or_lowByte (a : Nat) {b : Nat} (small : b < 256) :
    (a * 256) ||| b = a * 256 + b := by
  have joined := Nat.two_pow_add_eq_or_of_lt (i := 8) small a
  rw [Nat.mul_comm]
  exact joined.symm

theorem toNat_shiftLeft_byte (b : UInt8) {shift : UInt32}
    (small : shift.toNat ≤ 24) :
    (b.toUInt32 <<< shift).toNat = b.toNat * 2 ^ shift.toNat := by
  have bound : b.toNat * 2 ^ shift.toNat < 2 ^ 32 := by
    calc b.toNat * 2 ^ shift.toNat
        < 2 ^ 8 * 2 ^ shift.toNat :=
          Nat.mul_lt_mul_of_pos_right b.toNat_lt (Nat.two_pow_pos _)
      _ ≤ 2 ^ 8 * 2 ^ 24 :=
          Nat.mul_le_mul_left _ (Nat.pow_le_pow_right (by decide) small)
      _ = 2 ^ 32 := by decide
  have shiftInRange : shift.toNat % 32 = shift.toNat :=
    Nat.mod_eq_of_lt (by omega)
  rw [UInt32.toNat_shiftLeft, UInt8.toNat_toUInt32, shiftInRange,
    Nat.shiftLeft_eq, Nat.mod_eq_of_lt bound]

/-- Three bytes, the highest first. -/
def join3 (a b c : UInt8) : UInt32 :=
  (a.toUInt32 <<< 16) ||| (b.toUInt32 <<< 8) ||| c.toUInt32

theorem toNat_join3 (a b c : UInt8) :
    (join3 a b c).toNat = (a.toNat * 256 + b.toNat) * 256 + c.toNat := by
  have high : (a.toUInt32 <<< 16).toNat = a.toNat * 256 * 256 := by
    rw [toNat_shiftLeft_byte a (by decide), Nat.mul_assoc]
    rfl
  have middle : (b.toUInt32 <<< 8).toNat = b.toNat * 256 :=
    toNat_shiftLeft_byte b (by decide)
  have shifted : a.toNat * 256 * 256 ||| b.toNat * 256 =
      (a.toNat * 256 + b.toNat) * 256 := by
    have distributed : (a.toNat * 256 ||| b.toNat) <<< 8 =
        (a.toNat * 256) <<< 8 ||| b.toNat <<< 8 := Nat.shiftLeft_or_distrib
    rw [← or_lowByte a.toNat b.toNat_lt]
    simp only [Nat.shiftLeft_eq] at distributed
    exact distributed.symm
  rw [join3, UInt32.toNat_or, UInt32.toNat_or, high, middle,
    UInt8.toNat_toUInt32, shifted, or_lowByte _ c.toNat_lt]

/-- The fourth byte of a timestamp goes on top of the other three. -/
theorem toNat_join3_or (a b c d : UInt8) :
    (join3 a b c ||| (d.toUInt32 <<< 24)).toNat =
      ((d.toNat * 256 + a.toNat) * 256 + b.toNat) * 256 + c.toNat := by
  have low := toNat_join3 a b c
  have below : (join3 a b c).toNat < 2 ^ 24 := by
    have := a.toNat_lt
    have := b.toNat_lt
    have := c.toNat_lt
    omega
  have high : (d.toUInt32 <<< 24).toNat = 2 ^ 24 * d.toNat := by
    rw [toNat_shiftLeft_byte d (by decide), Nat.mul_comm]
    rfl
  rw [UInt32.toNat_or, Nat.or_comm, high,
    ← Nat.two_pow_add_eq_or_of_lt below, low]
  omega

theorem toBE_three (n : Nat) :
    toBE 3 n =
      [UInt8.ofNat (n / 256 / 256), UInt8.ofNat (n / 256), UInt8.ofNat n] :=
  rfl

theorem join3_toBE {n : Nat} (small : n < 16777216) :
    join3 (UInt8.ofNat (n / 256 / 256)) (UInt8.ofNat (n / 256))
      (UInt8.ofNat n) = UInt32.ofNat n := by
  apply UInt32.toNat_inj.mp
  rw [toNat_join3, UInt8.toNat_ofNat', UInt8.toNat_ofNat', UInt8.toNat_ofNat',
    UInt32.toNat_ofNat']
  omega

/-- A timestamp is sent as its low three bytes and then its highest. -/
theorem join3_or_toBE (t : UInt32) :
    join3 (UInt8.ofNat (t.toNat / 256 / 256)) (UInt8.ofNat (t.toNat / 256))
        (UInt8.ofNat t.toNat) |||
      ((UInt8.ofNat (t.toNat / 16777216)).toUInt32 <<< 24) = t := by
  have below := t.toNat_lt
  apply UInt32.toNat_inj.mp
  rw [toNat_join3_or, UInt8.toNat_ofNat', UInt8.toNat_ofNat',
    UInt8.toNat_ofNat', UInt8.toNat_ofNat']
  omega

end GroupVoip.Library.WireBytes
