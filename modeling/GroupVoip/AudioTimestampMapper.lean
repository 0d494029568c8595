import GroupVoip.CodecInfo
import Mathlib.Algebra.Order.Floor.Semifield
import Mathlib.Data.Rat.Floor

/-!
# AudioTimestampMapper

The mapper counts the frames handed out since its start and derives the time
of the next one from the count.  It starts again when the timestamps of the
stream run ahead by more than 100 ms.

Doubles are rationals here, and a cast to `u32` drops the fraction.
-/

namespace GroupVoip

/-- The cast of a `double` to `u32`, keeping the low 32 bits. -/
def truncU32 (x : ℚ) : UInt32 :=
  UInt32.ofNat ⌊x⌋₊

/-- The cast of a `double` to `int`, towards zero. -/
def truncInt (x : ℚ) : ℤ :=
  if 0 ≤ x then ⌊x⌋ else ⌈x⌉

/-- `startingTimestamp` and `cnt` are doubles in the source that only ever
hold a `u32` and a whole number. -/
structure AudioTimestampMapper where
  startingTimestamp : UInt32 := MAX_U32
  cnt : Nat := 0
  curTimestamp : UInt32 := MAX_U32
deriving DecidableEq, Repr

namespace AudioTimestampMapper

/-- The mapper starts at its first frame and again after a jump. -/
def restarts (m : AudioTimestampMapper) (ts : UInt32) : Bool :=
  m.startingTimestamp = MAX_U32 || ts > m.curTimestamp + 100

/-- The mapper once it has looked at the timestamp of the stream. -/
def settle (m : AudioTimestampMapper) (ts : UInt32) : AudioTimestampMapper :=
  if m.restarts ts then
    { startingTimestamp := ts, cnt := 0, curTimestamp := ts }
  else { m with curTimestamp := ts }

/-- `tsD`, the time at which the frames counted so far end. -/
def tsD (m : AudioTimestampMapper) : ℚ :=
  m.startingTimestamp.toNat +
    (m.cnt * 1000 * MP3_FRAME_SAMPLE_SIZE) / MP3_SAMPLE_PER_SEC

def getNextTimestamp (m : AudioTimestampMapper) (ts : UInt32) :
    UInt32 × AudioTimestampMapper :=
  let m := m.settle ts
  (truncU32 m.tsD, { m with cnt := m.cnt + 1 })

/-- Whole milliseconds from the start of the count to its end. -/
def elapsed (cnt : Nat) : Nat :=
  cnt * 1280 / 49

theorem elapsed_mono {fewer more : Nat} (le : fewer ≤ more) :
    elapsed fewer ≤ elapsed more :=
  Nat.div_le_div_right (Nat.mul_le_mul_right _ le)

theorem truncU32_tsD (m : AudioTimestampMapper) :
    truncU32 m.tsD =
      UInt32.ofNat (m.startingTimestamp.toNat + elapsed m.cnt) := by
  have quotient :
      m.tsD = m.startingTimestamp.toNat + ((m.cnt * 1280 : Nat) : ℚ) / (49 : Nat) := by
    simp only [tsD, MP3_FRAME_SAMPLE_SIZE, MP3_SAMPLE_PER_SEC]
    push_cast
    ring
  have whole :
      ⌊m.tsD⌋₊ = m.startingTimestamp.toNat + elapsed m.cnt := by
    rw [quotient, add_comm, Nat.floor_add_natCast (by positivity),
      Nat.floor_div_natCast, Nat.floor_natCast, add_comm, elapsed]
  rw [truncU32, whole]

theorem getNextTimestamp_fst (m : AudioTimestampMapper) (ts : UInt32) :
    (m.getNextTimestamp ts).1 =
      UInt32.ofNat ((m.settle ts).startingTimestamp.toNat +
        elapsed (m.settle ts).cnt) :=
  truncU32_tsD _

end AudioTimestampMapper

end GroupVoip
