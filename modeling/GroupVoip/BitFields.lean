import GroupVoip.BitStreamParser
import GroupVoip.Library.Bits
import GroupVoip.Library.Loops

/-!
# Bit fields

Fields of up to 32 bits are written with `writeBits` and read back with
`readBits`.  The writer counts bits in a `size_t` and the reader in an `int`,
so from bit 2^31 on they do not mean the same place.

A `size_t` is a natural number here: no string has 2^61 bytes.
-/

namespace GroupVoip

open Library.Bits Library.Loops Library.Runs

structure BitField where
  value : UInt32
  width : Nat
  positive : 1 ≤ width
  narrow : width ≤ 32
deriving DecidableEq, Repr

namespace BitFields

/-- `(byteStream_[offset/8] >> (7-(offset%8))) & 0x1`, where the offset is an
`int` and a `char` is signed.  A negative index is far beyond the end. -/
def bitOf (s : Bytes) (offset : Nat) : Except Abort UInt8 := do
  let offset := Int.bmod offset 4294967296
  if offset.tdiv 8 < 0 then throw .undefinedBehaviour
  let c ← charAt s (offset.tdiv 8).toNat
  return UInt8.ofNat
    ((c.toInt8.toInt >>> (7 - offset.tmod 8).toNat) % 2).toNat

def peekBit (s : Bytes) (start : Nat) (ret : UInt32) (i : Nat) :
    Except Abort UInt32 := do
  let t ← bitOf s (start + i)
  return ((ret <<< 1) &&& 4294967294) ||| t.toUInt32

def peekBits (p : BitStreamParser) (nBitsToSkip nBits : Nat) :
    Except Abort UInt32 :=
  if p.offset + nBits > p.byteStream.length * 8 then .ok 0
  else
    run (peekBit p.byteStream (p.offset + nBitsToSkip)) 0 (List.range nBits)

def readBits (p : BitStreamParser) (nBits : Nat) :
    Except Abort (UInt32 × BitStreamParser) := do
  let ret ← peekBits p 0 nBits
  return (ret, { p with offset := p.offset + nBits })

/-- `std::string::resize` with zeros. -/
def resize (s : Bytes) (n : Nat) : Bytes :=
  s.take n ++ List.replicate (n - s.length) 0

def writeBit (p : BitStreamParser) (value : UInt32) : BitStreamParser :=
  let t := p.byteStream.getD (p.offset / 8) 0
  let b := ((value >>> 31) &&& 1).toUInt8 <<< (7 - p.offset % 8).toUInt8
  let mask := ~~~((1 : UInt8) <<< (7 - p.offset % 8).toUInt8)
  { byteStream := p.byteStream.set (p.offset / 8) ((t &&& mask) ||| b)
    offset := p.offset + 1 }

def writeLoop : Nat → UInt32 → BitStreamParser → BitStreamParser
  | 0, _, p => p
  | n + 1, value, p => writeLoop n (value <<< 1) (writeBit p value)

def writeBits (p : BitStreamParser) (value : UInt32) (nBits : Nat) :
    BitStreamParser :=
  let value := value <<< (32 - nBits).toUInt32
  let byteStream :=
    if p.offset + nBits > p.byteStream.length * 8 then
      resize p.byteStream ((p.offset + nBits + 7) / 8)
    else p.byteStream
  writeLoop nBits value { p with byteStream := byteStream }

/-- Only a parser that stands between two bytes is moved. -/
def byteOffset (p : BitStreamParser) (t : Nat) : BitStreamParser :=
  if p.offset % 8 ≠ 0 then p else { p with offset := t * 8 }

def writeFields (p : BitStreamParser) (fields : List BitField) :
    BitStreamParser :=
  fields.foldl (fun p field => writeBits p field.value field.width) p

def readFields : BitStreamParser → List Nat → Except Abort (List UInt32)
  | _, [] => .ok []
  | p, nBits :: rest => do
      let (value, p) ← readBits p nBits
      let values ← readFields p rest
      return value :: values

/-! ## Reading -/

theorem bmod_of_low {o : Nat} (low : o % 4294967296 < 2147483648) :
    Int.bmod o 4294967296 = (o % 4294967296 : Nat) := by
  rw [Int.bmod_def]
  omega

theorem bmod_of_high {o : Nat} (high : 2147483648 ≤ o % 4294967296) :
    Int.bmod o 4294967296 = (o % 4294967296 : Nat) - 4294967296 := by
  rw [Int.bmod_def]
  omega

/-- The sign of a `char` does not reach the bit. -/
theorem bit_of_signed (c : UInt8) {m : Nat} (small : m < 8) :
    UInt8.ofNat ((c.toInt8.toInt >>> m) % 2).toNat =
      (c.toNat.testBit m).toUInt8 := by
  have everyByte : ∀ (n : Fin 256) (k : Fin 8),
      UInt8.ofNat (((UInt8.ofNat n.val).toInt8.toInt >>> k.val) % 2).toNat =
        (n.val.testBit k.val).toUInt8 := by
    decide +kernel
  simpa using everyByte ⟨c.toNat, c.toNat_lt⟩ ⟨m, small⟩

/-- As long as the `int` is not negative it is the place in the string, less
what it has lost. -/
theorem bitOf_low {s : Bytes} {o : Nat} (low : o % 4294967296 < 2147483648)
    (inside : o % 4294967296 < s.length * 8) :
    bitOf s o = .ok (bitAt s (o % 4294967296)).toUInt8 := by
  have quotient :
      (Int.bmod o 4294967296).tdiv 8 = (o % 4294967296 / 8 : Nat) := by
    rw [bmod_of_low low, Int.tdiv_eq_ediv_of_nonneg (by omega)]
    omega
  have rest :
      (Int.bmod o 4294967296).tmod 8 = (o % 4294967296 % 8 : Nat) := by
    rw [bmod_of_low low, Int.tmod_eq_emod_of_nonneg (by omega)]
    omega
  have found :
      charAt s (o % 4294967296 / 8) =
        .ok (s.getD (o % 4294967296 / 8) 0) :=
    if_pos (by omega)
  have notNegative : ¬ ((o % 4294967296 / 8 : Nat) : Int) < 0 := by omega
  have shift : (7 - ((o % 4294967296 % 8 : Nat) : Int)).toNat =
    7 - o % 4294967296 % 8 := by omega
  unfold bitOf
  simp only [quotient, rest, if_neg notNegative, Int.toNat_natCast, found,
    shift]
  exact congrArg Except.ok (bit_of_signed _ (by omega))

theorem bitOf_high {s : Bytes} {o : Nat} (high : 2147483648 ≤ o % 4294967296)
    (byteLeft : o % 4294967296 ≤ 4294967288) (b : UInt8) :
    bitOf s o ≠ .ok b := by
  have negative : (Int.bmod o 4294967296).tdiv 8 < 0 := by
    rw [bmod_of_high high, ← Int.neg_sub, Int.neg_tdiv,
      Int.tdiv_eq_ediv_of_nonneg (by omega)]
    omega
  intro same
  unfold bitOf at same
  simp only [if_pos negative] at same
  cases same

/-- The mask of the reader clears a bit that the shift has left clear. -/
theorem shift_masked (ret : UInt32) :
    ((ret <<< 1) &&& 4294967294 : UInt32) = ret <<< 1 := by
  have shifted : (ret <<< 1).toNat = (ret.toNat % 2 ^ 31) <<< 1 := by
    rw [UInt32.toNat_shiftLeft, Nat.shiftLeft_eq, Nat.shiftLeft_eq]
    simp
    omega
  apply UInt32.toNat_inj.mp
  calc ((ret <<< 1) &&& 4294967294 : UInt32).toNat
      = (ret.toNat % 2 ^ 31) <<< 1 &&& 4294967294 := by
        rw [UInt32.toNat_and, shifted]
        rfl
    _ = (ret.toNat % 2 ^ 31 &&& (2 ^ 31 - 1)) <<< 1 := by
        rw [Nat.shiftLeft_and_distrib]
        rfl
    _ = (ret <<< 1).toNat := by
        rw [Nat.and_two_pow_sub_one_eq_mod, Nat.mod_mod, shifted]

theorem pushed_toNat {ret : UInt32} (small : ret.toNat < 2147483648)
    (b : Bool) :
    (((ret <<< 1) &&& 4294967294) ||| b.toUInt8.toUInt32).toNat =
      2 * ret.toNat + b.toNat := by
  have shifted : (ret <<< 1).toNat = ret.toNat <<< 1 := by
    rw [UInt32.toNat_shiftLeft]
    simp
    omega
  have lowest : b.toUInt8.toUInt32.toNat = b.toNat := by
    cases b with
    | false => rfl
    | true => rfl
  rw [shift_masked, UInt32.toNat_or, shifted, lowest,
    ← Nat.shiftLeft_add_eq_or_of_lt (Bool.toNat_lt b), Nat.shiftLeft_eq]
  omega

theorem peekBit_low {s : Bytes} {o m : Nat} {ret : UInt32}
    (low : (o + m) % 4294967296 < 2147483648)
    (inside : (o + m) % 4294967296 < s.length * 8)
    (small : ret.toNat < 2147483648) :
    ∃ next, peekBit s o ret m = .ok next ∧
      next.toNat =
        2 * ret.toNat + (bitAt s ((o + m) % 4294967296)).toNat := by
  refine ⟨_, ?_, pushed_toNat small _⟩
  rw [peekBit, bitOf_low low inside]
  rfl

/-- Below bit 2^31 the parser reads as the one with a plain offset does. -/
theorem peekBits_eq {p : BitStreamParser} {n : Nat}
    (low : p.offset + n ≤ 2147483648) :
    peekBits p 0 n = .ok (p.peekBits n) := by
  rw [peekBits, BitStreamParser.peekBits]
  by_cases short : p.offset + n > p.byteStream.length * 8
  · rw [if_pos short, if_pos short]
  · rw [if_neg short, if_neg short]
    apply run_eq_foldl
    intro i member ret
    have isNext := List.mem_range.mp member
    have place : (p.offset + 0 + i) % 4294967296 = p.offset + i := by omega
    have sameBit :
        (bitAt p.byteStream (p.offset + i)).toUInt8.toUInt32 =
          p.bitAt (p.offset + i) := by
      rw [bitAt, BitStreamParser.bitAt, Nat.testBit_eq_decide_div_mod_eq]
      rcases Nat.mod_two_eq_zero_or_one
        ((p.byteStream.getD ((p.offset + i) / 8) 0).toNat /
          2 ^ (7 - (p.offset + i) % 8)) with isZero | isOne
      · rw [isZero]
        rfl
      · rw [isOne]
        rfl
    rw [peekBit, bitOf_low (by omega) (by omega), place, ← sameBit]
    exact congrArg (fun a => Except.ok (a ||| _)) (shift_masked ret)

/-- A read that stays below the sign bit returns what stands at the place that
the `int` means. -/
theorem readBits_low {p : BitStreamParser} {n : Nat} (narrow : n ≤ 32)
    (low : p.offset % 4294967296 + n ≤ 2147483648)
    (inside : p.offset + n ≤ p.byteStream.length * 8) :
    ∃ value, readBits p n = .ok (value, { p with offset := p.offset + n }) ∧
      value.toNat < 2 ^ n ∧
      Holds p.byteStream (p.offset % 4294967296) n value.toNat := by
  have turn : ∀ (m : Nat) (ret : UInt32), m < n →
      (ret.toNat < 2 ^ m ∧
        Holds p.byteStream (p.offset % 4294967296) m ret.toNat) →
      ∃ next, peekBit p.byteStream (p.offset + 0) ret m = .ok next ∧
        (next.toNat < 2 ^ (m + 1) ∧
          Holds p.byteStream (p.offset % 4294967296) (m + 1) next.toNat) := by
    intro m ret isNext soFar
    have place : (p.offset + 0 + m) % 4294967296 =
        p.offset % 4294967296 + m := by omega
    have below : 2 ^ m ≤ 2 ^ 31 :=
      Nat.pow_le_pow_right (by decide) (by omega)
    have notNegative : (p.offset + 0 + m) % 4294967296 < 2147483648 := by
      omega
    have present :
        (p.offset + 0 + m) % 4294967296 < p.byteStream.length * 8 := by omega
    have small : ret.toNat < 2147483648 := by omega
    obtain ⟨next, pushed, isPushed⟩ := peekBit_low notNegative present small
    refine ⟨next, pushed, ?_, ?_⟩
    · have bit := Bool.toNat_lt
        (bitAt p.byteStream ((p.offset + 0 + m) % 4294967296))
      rw [isPushed, Nat.pow_succ]
      omega
    · rw [isPushed, place]
      exact soFar.2.push
  obtain ⟨value, looped, small, holds⟩ :=
    run_upward
      (fun m (ret : UInt32) => ret.toNat < 2 ^ m ∧
        Holds p.byteStream (p.offset % 4294967296) m ret.toNat)
      turn n 0 le_rfl ⟨by decide, fun j isInside => by omega⟩
  have peeked : peekBits p 0 n = .ok value := by
    rw [peekBits, if_neg (by omega), looped]
  refine ⟨value, ?_, small, holds⟩
  rw [readBits, peeked]
  rfl

/-- The widths of the fields and the values as they should be read back. -/
def widths (fields : List BitField) : List Nat :=
  fields.map BitField.width

def values (fields : List BitField) : List UInt32 :=
  fields.map fun field =>
    UInt32.ofNat (field.value.toNat % 2 ^ field.width)

/-- The fields as numbers. -/
def numbers (fields : List BitField) : List (Nat × Nat) :=
  fields.map fun field => (field.value.toNat, field.width)

section Cons

variable (field : BitField) (rest : List BitField)

theorem widths_cons :
    widths (field :: rest) = field.width :: widths rest :=
  rfl

theorem values_cons :
    values (field :: rest) =
      UInt32.ofNat (field.value.toNat % 2 ^ field.width) :: values rest :=
  rfl

theorem numbers_cons :
    numbers (field :: rest) =
      (field.value.toNat, field.width) :: numbers rest :=
  rfl

theorem writeFields_cons (p : BitStreamParser) :
    writeFields p (field :: rest) =
      writeFields (writeBits p field.value field.width) rest :=
  rfl

end Cons

theorem readFields_low_iff (fields : List BitField) :
    ∀ p : BitStreamParser,
      p.offset % 4294967296 + totalWidth (numbers fields) ≤ 2147483648 →
      p.offset + totalWidth (numbers fields) ≤ p.byteStream.length * 8 →
      (readFields p (widths fields) = .ok (values fields) ↔
        HoldsAll p.byteStream (p.offset % 4294967296) (numbers fields)) := by
  induction fields with
  | nil =>
      intro p low inside
      exact ⟨fun _ => trivial, fun _ => rfl⟩
  | cons field rest inductionHypothesis =>
      intro p low inside
      rw [numbers_cons, totalWidth_cons] at low inside
      obtain ⟨value, readFirst, small, holds⟩ :=
        readBits_low (p := p) field.narrow (by omega) (by omega)
      have restIff := inductionHypothesis
        { p with offset := p.offset + field.width }
        (by dsimp only; omega) (by dsimp only; omega)
      have place : (p.offset + field.width) % 4294967296 =
          p.offset % 4294967296 + field.width := by
        have positive := field.positive
        omega
      have firstIff :
          value = UInt32.ofNat (field.value.toNat % 2 ^ field.width) ↔
            Holds p.byteStream (p.offset % 4294967296) field.width
              field.value.toNat := by
        rw [holds.iff_eq_mod small, ← UInt32.toNat_inj, UInt32.toNat_ofNat']
        rw [Nat.mod_eq_of_lt (lt_of_le_of_lt (Nat.mod_le _ _)
          field.value.toNat_lt)]
      rw [widths_cons, readFields, readFirst, values_cons, numbers_cons,
        HoldsAll, ← place, ← firstIff, ← restIff]
      constructor
      · intro read
        obtain ⟨_, same, readOn⟩ := bind_ok.mp read
        cases same
        obtain ⟨restValues, readRest, sameAll⟩ := bind_ok.mp readOn
        cases sameAll
        exact ⟨rfl, readRest⟩
      · intro both
        obtain ⟨isFirst, readRest⟩ := both
        rw [isFirst]
        exact bind_ok.mpr ⟨_, rfl, bind_ok.mpr ⟨_, readRest, rfl⟩⟩

/-- A bit that cannot be read stops the read of every field that it is in. -/
theorem readFields_stuck (fields : List BitField) (k : Nat) :
    ∀ p : BitStreamParser, p.offset ≤ k →
      k < p.offset + totalWidth (numbers fields) →
      p.offset + totalWidth (numbers fields) ≤ p.byteStream.length * 8 →
      (∀ b, bitOf p.byteStream k ≠ .ok b) →
      ∀ read, readFields p (widths fields) ≠ .ok read := by
  induction fields with
  | nil =>
      intro p before after
      rw [numbers, List.map_nil] at after
      exact absurd after (Nat.not_lt.mpr before)
  | cons field rest inductionHypothesis =>
      intro p before after inside stuck read
      rw [numbers_cons, totalWidth_cons] at after inside
      rw [widths_cons, readFields]
      intro readAll
      obtain ⟨first, readFirst, readRest⟩ := bind_ok.mp readAll
      obtain ⟨restValues, others, _⟩ := bind_ok.mp readRest
      obtain ⟨value, peeked, isNext⟩ := bind_ok.mp readFirst
      cases isNext
      by_cases inFirst : k < p.offset + field.width
      · rw [peekBits, if_neg (by omega)] at peeked
        obtain ⟨ret, next, pushed⟩ := exists_step_of_run peeked
          (List.mem_range.mpr (show k - p.offset < field.width by omega))
        obtain ⟨b, isBit, _⟩ := bind_ok.mp pushed
        rw [show p.offset + 0 + (k - p.offset) = k by omega] at isBit
        exact stuck b isBit
      · exact inductionHypothesis
          { p with offset := p.offset + field.width } (by dsimp only; omega)
          (by dsimp only; omega) (by dsimp only; omega) stuck _ others

/-! ## Writing -/

theorem mask_testBit {m j : Nat} (inside : m < 8) (within : j < 8) :
    (~~~((1 : UInt8) <<< m.toUInt8)).toNat.testBit j = decide (j ≠ m) := by
  have everyBit : ∀ m j : Fin 8,
      (~~~((1 : UInt8) <<< m.val.toUInt8)).toNat.testBit j.val =
        decide (j.val ≠ m.val) := by
    decide +kernel
  exact everyBit ⟨m, inside⟩ ⟨j, within⟩

theorem placed_testBit (b : Bool) {m j : Nat} (inside : m < 8)
    (within : j < 8) :
    (b.toUInt8 <<< m.toUInt8).toNat.testBit j = (decide (j = m) && b) := by
  have everyBit : ∀ (b : Bool) (m j : Fin 8),
      (b.toUInt8 <<< m.val.toUInt8).toNat.testBit j.val =
        (decide (j.val = m.val) && b) := by
    decide +kernel
  exact everyBit b ⟨m, inside⟩ ⟨j, within⟩

theorem highest_bit (value : UInt32) :
    ((value >>> 31) &&& 1).toUInt8 = (value.toBitVec.getMsbD 0).toUInt8 := by
  have shifted : (value >>> 31).toNat = value.toNat >>> 31 := rfl
  have small := value.toNat_lt
  have oneBit : value.toNat / 2147483648 = 0 ∨
      value.toNat / 2147483648 = 1 := by omega
  apply UInt8.toNat_inj.mp
  rcases oneBit with isZero | isOne
  · simp [BitVec.getMsbD, BitVec.getLsbD, Nat.testBit, shifted,
      Nat.shiftRight_eq_div_pow, isZero]
    rfl
  · simp [BitVec.getMsbD, BitVec.getLsbD, Nat.testBit, shifted,
      Nat.shiftRight_eq_div_pow, isOne]
    rfl

theorem writeBit_bitAt {p : BitStreamParser} (value : UInt32)
    (inside : p.offset < p.byteStream.length * 8) (i : Nat) :
    bitAt (writeBit p value).byteStream i =
      if i = p.offset then value.toBitVec.getMsbD 0
      else bitAt p.byteStream i := by
  apply bitAt_set (by omega)
  intro j isBit
  rw [highest_bit, UInt8.toNat_or, UInt8.toNat_and, Nat.testBit_or,
    Nat.testBit_and, mask_testBit (by omega) isBit,
    placed_testBit _ (by omega) isBit]
  by_cases isWritten : j = 7 - p.offset % 8
  · simp [isWritten]
  · simp [isWritten]

/-- The value is on its way out at the top: its highest bits are the lowest
`n` bits of `v`. -/
def Aligned (value : UInt32) (n v : Nat) : Prop :=
  ∀ j, j < n → value.toBitVec.getMsbD j = v.testBit (n - 1 - j)

theorem aligned_start (value : UInt32) {n : Nat} (narrow : n ≤ 32) :
    Aligned (value <<< (32 - n).toUInt32) n value.toNat := by
  intro j isInside
  have amount : ((32 - n).toUInt32.toBitVec % 32).toNat = 32 - n := by
    have everyWidth : ∀ m : Fin 32,
        (m.val.toUInt32.toBitVec % 32).toNat = m.val := by
      decide +kernel
    exact everyWidth ⟨32 - n, by omega⟩
  rw [UInt32.toBitVec_shiftLeft, BitVec.shiftLeft_eq',
    BitVec.getMsbD_shiftLeft]
  rw [amount, BitVec.getMsbD_eq_getLsbD,
    show 32 - 1 - (j + (32 - n)) = n - 1 - j by omega]
  simp [show j + (32 - n) < 32 by omega, BitVec.getLsbD]

theorem Aligned.shift {value : UInt32} {n v : Nat}
    (aligned : Aligned value (n + 1) v) : Aligned (value <<< 1) n v := by
  intro j isInside
  calc (value <<< 1).toBitVec.getMsbD j = value.toBitVec.getMsbD (j + 1) := by
        rw [UInt32.toBitVec_shiftLeft, BitVec.shiftLeft_eq',
          BitVec.getMsbD_shiftLeft]
        rfl
    _ = v.testBit (n + 1 - 1 - (j + 1)) := aligned (j + 1) (by omega)
    _ = v.testBit (n - 1 - j) := congrArg v.testBit (by omega)

theorem length_writeLoop (n : Nat) :
    ∀ value p, (writeLoop n value p).byteStream.length =
      p.byteStream.length := by
  induction n with
  | zero => exact fun value p => rfl
  | succ n inductionHypothesis =>
      intro value p
      rw [writeLoop, inductionHypothesis, writeBit, List.length_set]

theorem offset_writeLoop (n : Nat) :
    ∀ value p, (writeLoop n value p).offset = p.offset + n := by
  induction n with
  | zero => exact fun value p => rfl
  | succ n inductionHypothesis =>
      intro value p
      rw [writeLoop, inductionHypothesis, writeBit]
      dsimp only
      omega

theorem writeLoop_bits (n v : Nat) :
    ∀ value p, Aligned value n v →
      p.offset + n ≤ p.byteStream.length * 8 →
      Holds (writeLoop n value p).byteStream p.offset n v ∧
        AgreeOutside p.byteStream (writeLoop n value p).byteStream
          p.offset n := by
  induction n with
  | zero =>
      intro value p aligned inside
      exact ⟨fun j isInside => absurd isInside (Nat.not_lt_zero j),
        fun k outside => rfl⟩
  | succ n inductionHypothesis =>
      intro value p aligned inside
      have oneBit := writeBit_bitAt (p := p) value (by omega)
      have restBits := inductionHypothesis (value <<< 1) (writeBit p value)
        aligned.shift (by
          rw [writeBit, List.length_set]
          dsimp only
          omega)
      have next : (writeBit p value).offset = p.offset + 1 := rfl
      rw [next] at restBits
      have firstOnly :
          AgreeOutside p.byteStream (writeBit p value).byteStream
            p.offset 1 := by
        intro k outside
        rw [oneBit, if_neg (by omega)]
      rw [writeLoop]
      constructor
      · refine Holds.cons ?_ restBits.1
        -- the later turns stay behind the bit of this one
        rw [restBits.2 p.offset (by omega), oneBit, if_pos rfl,
          aligned 0 (Nat.succ_pos n)]
        rfl
      · have all := firstOnly.append restBits.2
        rwa [Nat.add_comm 1 n] at all

theorem resize_larger {s : Bytes} {n : Nat} (larger : s.length ≤ n) :
    resize s n = s ++ List.replicate (n - s.length) 0 := by
  rw [resize, List.take_of_length_le larger]

theorem length_writeBits (p : BitStreamParser) (value : UInt32) (n : Nat) :
    (writeBits p value n).byteStream.length =
      max p.byteStream.length ((p.offset + n + 7) / 8) := by
  rw [writeBits, length_writeLoop]
  dsimp only
  by_cases grows : p.offset + n > p.byteStream.length * 8
  · rw [if_pos grows, resize_larger (by omega), List.length_append,
      List.length_replicate]
    omega
  · rw [if_neg grows]
    omega

theorem offset_writeBits (p : BitStreamParser) (value : UInt32) (n : Nat) :
    (writeBits p value n).offset = p.offset + n := by
  rw [writeBits, offset_writeLoop]

theorem writeBits_bits (p : BitStreamParser) (value : UInt32) {n : Nat}
    (narrow : n ≤ 32) :
    Holds (writeBits p value n).byteStream p.offset n value.toNat ∧
      AgreeOutside p.byteStream (writeBits p value n).byteStream
        p.offset n := by
  have aligned := aligned_start value narrow
  by_cases grows : p.offset + n > p.byteStream.length * 8
  · have larger : p.byteStream.length ≤ (p.offset + n + 7) / 8 := by omega
    have written := writeLoop_bits n value.toNat _
      { p with byteStream := resize p.byteStream ((p.offset + n + 7) / 8) }
      aligned (by
        dsimp only
        rw [resize_larger larger, List.length_append, List.length_replicate]
        omega)
    rw [writeBits, if_pos grows]
    refine ⟨written.1, ?_⟩
    intro k outside
    rw [written.2 k outside]
    dsimp only
    rw [resize_larger larger, bitAt_append_zeros]
  · rw [writeBits, if_neg grows]
    exact writeLoop_bits n value.toNat _ p aligned (by omega)

theorem writeFields_bits (fields : List BitField) :
    ∀ p, HoldsAll (writeFields p fields).byteStream p.offset
        (numbers fields) ∧
      AgreeOutside p.byteStream (writeFields p fields).byteStream p.offset
        (totalWidth (numbers fields)) := by
  induction fields with
  | nil => exact fun p => ⟨trivial, fun k outside => rfl⟩
  | cons field rest inductionHypothesis =>
      intro p
      have firstBits := writeBits_bits p field.value field.narrow
      have restBits :=
        inductionHypothesis (writeBits p field.value field.width)
      rw [offset_writeBits] at restBits
      rw [writeFields_cons, numbers_cons, totalWidth_cons]
      refine ⟨⟨?_, restBits.1⟩, firstBits.2.append restBits.2⟩
      exact (restBits.2.holds_iff (Or.inl le_rfl) _).mpr firstBits.1

/-- The string grows to the smallest number of bytes that has room. -/
theorem length_writeFields (fields : List BitField) (notEmpty : fields ≠ []) :
    ∀ p, (writeFields p fields).byteStream.length =
      max p.byteStream.length
        ((p.offset + totalWidth (numbers fields) + 7) / 8) := by
  induction fields with
  | nil => exact absurd rfl notEmpty
  | cons field rest inductionHypothesis =>
      intro p
      rw [writeFields_cons, numbers_cons, totalWidth_cons]
      by_cases isLast : rest = []
      · rw [isLast]
        exact length_writeBits p field.value field.width
      · rw [inductionHypothesis isLast, length_writeBits, offset_writeBits]
        omega

/-! ## Writing and reading back -/

/-- The string after the fields were written from byte `t` on. -/
def written (s : Bytes) (t : Nat) (fields : List BitField) : Bytes :=
  (writeFields (byteOffset { byteStream := s } t) fields).byteStream

structure RoundTrip (s : Bytes) (t : Nat) (fields : List BitField) :
    Prop where
  readBack :
    readFields (byteOffset { byteStream := written s t fields } t)
      (widths fields) = .ok (values fields)
  unchanged :
    AgreeOutside s (written s t fields) (t * 8) (totalWidth (numbers fields))
  grown :
    (written s t fields).length =
      if fields = [] then s.length
      else max s.length ((t * 8 + totalWidth (numbers fields) + 7) / 8)

/-- No bit of the fields is at 2^31 or beyond, or what the reader takes for
them happens to be the same. -/
def ReadsBack (s : Bytes) (t : Nat) (fields : List BitField) : Prop :=
  fields = [] ∨ t * 8 + totalWidth (numbers fields) ≤ 2147483648 ∨
    (4294967296 ≤ t * 8 ∧
      t * 8 % 4294967296 + totalWidth (numbers fields) ≤ 2147483648 ∧
      HoldsAll s (t * 8 % 4294967296) (numbers fields))

instance (s : Bytes) (t : Nat) (fields : List BitField) :
    Decidable (ReadsBack s t fields) :=
  inferInstanceAs (Decidable (_ ∨ _ ∨ (_ ∧ _ ∧ _)))

theorem byteOffset_fresh (s : Bytes) (t : Nat) :
    byteOffset { byteStream := s } t = { byteStream := s, offset := t * 8 } :=
  rfl

theorem totalWidth_pos {fields : List BitField} (notEmpty : fields ≠ []) :
    0 < totalWidth (numbers fields) := by
  cases fields with
  | nil => exact absurd rfl notEmpty
  | cons field rest =>
      rw [numbers_cons, totalWidth_cons]
      exact Nat.lt_of_lt_of_le field.positive (Nat.le_add_right _ _)

theorem written_bits (s : Bytes) (t : Nat) (fields : List BitField) :
    HoldsAll (written s t fields) (t * 8) (numbers fields) ∧
      AgreeOutside s (written s t fields) (t * 8)
        (totalWidth (numbers fields)) :=
  writeFields_bits fields { byteStream := s, offset := t * 8 }

theorem length_written (s : Bytes) (t : Nat) (fields : List BitField) :
    (written s t fields).length =
      if fields = [] then s.length
      else max s.length
        ((t * 8 + totalWidth (numbers fields) + 7) / 8) := by
  by_cases isEmpty : fields = []
  · rw [if_pos isEmpty, isEmpty]
    rfl
  · rw [if_neg isEmpty]
    exact length_writeFields fields isEmpty
      { byteStream := s, offset := t * 8 }

/-- Past the sign bit of the `int` the reader looks outside of the string. -/
theorem readFields_high {s : Bytes} {t : Nat} {fields : List BitField}
    (notEmpty : fields ≠ [])
    (high : 2147483648 <
      t * 8 % 4294967296 + totalWidth (numbers fields)) :
    ∀ read, readFields
      (byteOffset { byteStream := written s t fields } t)
      (widths fields) ≠ .ok read := by
  have room : t * 8 + totalWidth (numbers fields) ≤
      (written s t fields).length * 8 := by
    rw [length_written, if_neg notEmpty]
    omega
  have positive := totalWidth_pos notEmpty
  rw [byteOffset_fresh]
  by_cases already : 2147483648 ≤ t * 8 % 4294967296
  · exact readFields_stuck fields (t * 8) _ le_rfl (by dsimp only; omega) room
      (bitOf_high already (by omega))
  · have place :
        (t * 8 + (2147483648 - t * 8 % 4294967296)) % 4294967296 =
          2147483648 := by omega
    exact readFields_stuck fields
      (t * 8 + (2147483648 - t * 8 % 4294967296)) _ (by dsimp only; omega)
      (by dsimp only; omega) room
      (bitOf_high (by omega) (by omega))

/-- Fields survive exactly when they end before bit 2^31, or when the place
where the reader looks instead holds the same bits. -/
theorem roundTrip_iff (s : Bytes) (t : Nat) (fields : List BitField) :
    RoundTrip s t fields ↔ ReadsBack s t fields := by
  have bits := written_bits s t fields
  have grown := length_written s t fields
  have readIff :
      readFields (byteOffset { byteStream := written s t fields } t)
        (widths fields) = .ok (values fields) ↔ ReadsBack s t fields := by
    by_cases isEmpty : fields = []
    · rw [isEmpty]
      exact ⟨fun _ => Or.inl rfl, fun _ => rfl⟩
    rw [if_neg isEmpty] at grown
    have positive := totalWidth_pos isEmpty
    rw [ReadsBack, or_iff_right isEmpty]
    by_cases low :
        t * 8 % 4294967296 + totalWidth (numbers fields) ≤ 2147483648
    · have read := readFields_low_iff fields
        { byteStream := written s t fields, offset := t * 8 } low
        (by dsimp only; omega)
      rw [byteOffset_fresh, read]
      dsimp only
      by_cases small : t * 8 < 4294967296
      · rw [Nat.mod_eq_of_lt small] at low ⊢
        exact ⟨fun _ => Or.inl low, fun _ => bits.1⟩
      · rw [bits.2.holdsAll_iff _ _ (Or.inl (by omega))]
        constructor
        · intro holds
          exact Or.inr ⟨by omega, low, holds⟩
        · intro either
          rcases either with ends | same
          · omega
          · exact same.2.2
    · constructor
      · intro read
        exact absurd read (readFields_high isEmpty (by omega) _)
      · intro either
        rcases either with ends | same
        · omega
        · exact absurd same.2.1 low
  constructor
  · intro trip
    exact readIff.mp trip.readBack
  · intro reads
    exact ⟨readIff.mpr reads, bits.2, grown⟩

/-- One bit behind the first 256 MB is written and cannot be read. -/
theorem roundTrip_fails_behind :
    ¬ RoundTrip [] 268435456 [⟨1, 1, by decide, by decide⟩] := by
  intro trip
  exact readFields_high (by simp) (by decide) _ trip.readBack

end BitFields

end GroupVoip
