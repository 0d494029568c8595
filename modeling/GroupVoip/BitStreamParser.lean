import GroupVoip.CodecInfo
import Mathlib.Algebra.Group.Nat.Defs

/-!
# BitStreamParser

A cursor over a string, counted in bits.  Reading bits past the end gives zero
and still moves the cursor; reading bytes past the end gives what is left, or
throws when the cursor is already beyond the end.
-/

namespace GroupVoip

/-- `s[i]` for a `std::string`: the terminator may be read, nothing after
it. -/
def charAt (s : Bytes) (i : Nat) : Except Abort UInt8 :=
  if i < s.length then .ok (s.getD i 0)
  else if i = s.length then .ok 0
  else .error .undefinedBehaviour

structure BitStreamParser where
  byteStream : Bytes
  offset : Nat := 0
deriving DecidableEq, Repr

namespace BitStreamParser

/-- The bit at a bit offset, the highest bit of a byte first. -/
def bitAt (p : BitStreamParser) (offset : Nat) : UInt32 :=
  (((p.byteStream.getD (offset / 8) 0).toNat / 2 ^ (7 - offset % 8)) % 2).toUInt32

def peekBits (p : BitStreamParser) (nBits : Nat) : UInt32 :=
  if p.offset + nBits > p.byteStream.length * 8 then 0
  else (List.range nBits).foldl
    (fun ret i => (ret <<< 1) ||| p.bitAt (p.offset + i)) 0

def readBits (p : BitStreamParser) (nBits : Nat) : UInt32 × BitStreamParser :=
  (p.peekBits nBits, { p with offset := p.offset + nBits })

def readByte (p : BitStreamParser) : UInt8 × BitStreamParser :=
  ((p.peekBits 8).toUInt8, { p with offset := p.offset + 8 })

/-- `std::string::substr` throws when the start is beyond the end. -/
def readBytes (p : BitStreamParser) (t : Nat) :
    Except Abort (Bytes × BitStreamParser) :=
  if p.offset / 8 ≤ p.byteStream.length then
    .ok ((p.byteStream.drop (p.offset / 8)).take t,
      { p with offset := p.offset + t * 8 })
  else
    .error .outOfRange

theorem readBytes_ok {p : BitStreamParser} {t : Nat}
    (inside : p.offset / 8 ≤ p.byteStream.length) :
    p.readBytes t =
      .ok ((p.byteStream.drop (p.offset / 8)).take t,
        { p with offset := p.offset + t * 8 }) :=
  if_pos inside

/-- Eight bits put together again are the byte they come from. -/
theorem bits_of_byte (b : UInt8) :
    ((List.range 8).foldl
      (fun (ret : UInt32) i =>
        (ret <<< 1) ||| ((b.toNat / 2 ^ (7 - i % 8)) % 2).toUInt32) 0).toUInt8 =
      b := by
  have everyByte :
      ∀ n : Fin 256,
        ((List.range 8).foldl
          (fun (ret : UInt32) i =>
            (ret <<< 1) ||| ((n.val / 2 ^ (7 - i % 8)) % 2).toUInt32)
          0).toUInt8 = UInt8.ofNat n.val := by
    decide +kernel
  simpa using everyByte ⟨b.toNat, b.toNat_lt⟩

theorem readByte_aligned {p : BitStreamParser} {at_ : Nat}
    (aligned : p.offset = at_ * 8) (inside : at_ < p.byteStream.length) :
    p.readByte =
      (p.byteStream.getD at_ 0, { p with offset := p.offset + 8 }) := by
  have enough : ¬ p.offset + 8 > p.byteStream.length * 8 := by
    omega
  have sameBits :
      (List.range 8).foldl
          (fun (ret : UInt32) i =>
            (ret <<< 1) ||| p.bitAt (p.offset + i)) 0 =
        (List.range 8).foldl
          (fun (ret : UInt32) i =>
            (ret <<< 1) |||
              (((p.byteStream.getD at_ 0).toNat / 2 ^ (7 - i % 8)) %
                2).toUInt32) 0 := by
    apply List.foldl_ext
    intro ret i member
    have small : i < 8 := List.mem_range.mp member
    have sameByte : (p.offset + i) / 8 = at_ := by omega
    have sameBit : (p.offset + i) % 8 = i % 8 := by omega
    rw [bitAt, sameByte, sameBit]
  rw [readByte, peekBits, if_neg enough, sameBits, bits_of_byte]

end BitStreamParser

end GroupVoip
