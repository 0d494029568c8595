import GroupVoip.FLVSegmentParser
import GroupVoip.Library.BitCount
import Mathlib.Data.Nat.Count

/-!
# The segment format

The format that `FLVSegmentParser.h` documents, as data: a segment is a mask
and one record for each bit set in it, and a record carries bytes of one
stream.  `bytes` writes a segment down.
-/

namespace GroupVoip

open Library.WireBytes Library.BitCount

theorem ofNat_slot_inj {i j : Slot} :
    UInt32.ofNat i.val = UInt32.ofNat j.val ↔ i = j := by
  have everyPair :
      ∀ i j : Fin 32, UInt32.ofNat i.val = UInt32.ofNat j.val ↔ i = j := by
    decide +kernel
  exact everyPair i j

namespace Streams

/-- The two shifts leave the bit that the mask has at the slot. -/
theorem maskBit_eq_testBit (streamMask : UInt32) (i : Slot) :
    maskBit streamMask i = streamMask.toNat.testBit i.val := by
  have small : i.val < 32 := i.isLt
  have position : (UInt32.ofNat i.val).toNat % 32 = i.val := by
    rw [UInt32.toNat_ofNat', Nat.mod_mod_of_dvd _ (by decide)]
    exact Nat.mod_eq_of_lt small
  have last : (31 : UInt32).toNat % 32 = 31 := by decide
  have shifted :
      (((streamMask >>> UInt32.ofNat i.val) <<< 31) >>> 31).toNat =
        streamMask.toNat / 2 ^ i.val % 2 := by
    rw [UInt32.toNat_shiftRight, UInt32.toNat_shiftLeft,
      UInt32.toNat_shiftRight, position, last, Nat.shiftLeft_eq,
      Nat.shiftRight_eq_div_pow, Nat.shiftRight_eq_div_pow]
    omega
  have nonzero :
      ((streamMask >>> UInt32.ofNat i.val) <<< 31) >>> 31 ≠ 0 ↔
        streamMask.toNat / 2 ^ i.val % 2 = 1 := by
    rw [← shifted, Ne, ← UInt32.toNat_inj, UInt32.toNat_zero]
    omega
  rw [maskBit, Nat.testBit_eq_decide_div_mod_eq]
  exact decide_eq_decide.mpr nonzero

theorem countP_eq_one (slot : Slot) :
    slots.countP (fun i => decide (i = slot)) = 1 := by
  have everySlot :
      ∀ slot : Fin 32, slots.countP (fun i => decide (i = slot)) = 1 := by
    decide +kernel
  exact everySlot slot

/-- One slot of a set and its others are all of the set. -/
theorem length_filter_ne {p : Slot → Bool} {slot : Slot}
    (isSet : p slot = true) :
    (slots.filter fun i => i ≠ slot && p i).length + 1 = slots.countP p := by
  have self : (slots.filter fun i => decide (i = slot)).countP p = 1 := by
    rw [List.countP_filter, ← countP_eq_one slot]
    apply List.countP_congr
    intro i _
    by_cases same : i = slot
    · simp [same, isSet]
    · simp [same]
  have rest : (slots.filter fun i => !decide (i = slot)).countP p =
      (slots.filter fun i => i ≠ slot && p i).length := by
    rw [List.countP_filter, ← List.countP_eq_length_filter]
    apply List.countP_congr
    intro i _
    simp [and_comm]
  rw [List.countP_eq_countP_filter_add slots p (fun i => decide (i = slot)),
    self, rest, Nat.add_comm]

end Streams

/-- The number of slots whose bit is set. -/
def maskCount (streamMask : UInt32) : Nat :=
  Streams.slots.countP (Streams.maskBit streamMask)

theorem maskCount_eq_card (streamMask : UInt32) :
    maskCount streamMask = (setBits 32 streamMask.toNat).card := by
  have positions :
      Streams.slots.countP (Streams.maskBit streamMask) =
        ((List.range 32).countP fun i => streamMask.toNat.testBit i) := by
    have values : List.range 32 = Streams.slots.map Fin.val := by decide
    rw [values, List.countP_map]
    apply List.countP_congr
    intro i _
    rw [Streams.maskBit_eq_testBit]
    rfl
  rw [maskCount, positions, setBits, ← Nat.count_eq_card_filter_range,
    Nat.count]
  simp

theorem maskCount_zero : maskCount 0 = 0 := by
  rw [maskCount_eq_card, UInt32.toNat_zero, setBits_zero]
  rfl

theorem maskCount_cleared {n : UInt32} (nonzero : n ≠ 0) :
    maskCount (n &&& (n - 1)) + 1 = maskCount n := by
  have positive : n.toNat ≠ 0 := fun same => nonzero (UInt32.toNat_inj.mp same)
  have cleared : (n &&& (n - 1)).toNat = n.toNat &&& (n.toNat - 1) := by
    rw [UInt32.toNat_and, UInt32.toNat_sub_of_le]
    · rfl
    · rw [UInt32.le_iff_toNat_le]
      exact Nat.one_le_iff_ne_zero.mpr positive
  rw [maskCount_eq_card, maskCount_eq_card, cleared]
  exact card_setBits_cleared positive n.toNat_lt

theorem countBits_eq :
    ∀ (turns : Nat) (n c : UInt32), maskCount n ≤ turns →
      countBits turns n c = c + UInt32.ofNat (maskCount n) := by
  intro turns
  induction turns with
  | zero =>
      intro n c few
      have nothing : maskCount n = 0 := by omega
      simp [countBits, nothing]
  | succ turns inductionHypothesis =>
      intro n c few
      by_cases zero : n = 0
      · rw [zero, maskCount_zero, countBits, if_pos rfl]
        exact (UInt32.add_zero c).symm
      · have smaller := maskCount_cleared zero
        rw [countBits, if_neg zero, inductionHypothesis _ _ (by omega),
          ← smaller, UInt32.ofNat_add, UInt32.add_assoc]
        congr 1
        exact UInt32.add_comm _ _

theorem maskCount_le (streamMask : UInt32) : maskCount streamMask ≤ 32 :=
  List.countP_le_length

theorem count_bits_eq (n : UInt32) :
    count_bits n = UInt32.ofNat (maskCount n) := by
  rw [count_bits, countBits_eq 32 n 0 (maskCount_le n), UInt32.zero_add]

/-! ## Segments as data -/

/-- A stream record: the slot, the source, and the bytes of the stream. -/
structure StreamRecord where
  id : Slot
  source : Fin kTotalStreamSource
  data : Bytes
  length_lt : data.length < 2 ^ 32

/-- What the senders declare a stream to be. -/
def desktopSource : Fin kTotalStreamSource :=
  ⟨1, by decide⟩

namespace StreamRecord

def idSource (r : StreamRecord) : UInt8 :=
  UInt8.ofNat (r.id.val * 8 + r.source.val)

def header (r : StreamRecord) : Bytes :=
  [r.idSource, 0] ++ toLE 4 r.data.length

def bytes (r : StreamRecord) : Bytes :=
  r.header ++ r.data

/-- The record's bytes reach the slot's parser unless there are none. -/
def deliveries (r : StreamRecord) : List (Slot × Bytes) :=
  if r.data = [] then [] else [(r.id, r.data)]

def calls (r : StreamRecord) : List SegmentCall :=
  .streamSource r.id (StreamSource.ofBits r.source.val) ::
    r.deliveries.map fun delivery => .readRecord delivery.1 delivery.2

end StreamRecord

/-- A segment has one record for each bit of its mask, and one slot stays
free. -/
structure Segment where
  mask : UInt32
  records : List StreamRecord
  counted : records.length = maskCount mask
  slotFree : maskCount mask < MAX_XCODING_INSTANCES

namespace Segment

def bytes (segment : Segment) : Bytes :=
  [83, 71, 73, 0] ++ toLE 4 segment.mask.toNat ++
    segment.records.flatMap StreamRecord.bytes

def deliveries (segment : Segment) : List (Slot × Bytes) :=
  segment.records.flatMap StreamRecord.deliveries

def calls (segment : Segment) : List SegmentCall :=
  .streamMask segment.mask :: segment.records.flatMap StreamRecord.calls

end Segment

/-- An FLV tag: type, size, timestamp, stream id, data and the size of the
previous tag. -/
def flvTagBytes (streamType : UInt8) (timestamp : UInt32) (data : Bytes) :
    Bytes :=
  [streamType] ++ toBE 3 data.length ++
    [(timestamp >>> 16).toUInt8, (timestamp >>> 8).toUInt8,
      timestamp.toUInt8, (timestamp >>> 24).toUInt8, 0, 0, 0] ++
    data ++ [0, 0, 0, 0]

theorem maskCount_one : maskCount 1 = 1 := by
  decide +kernel

/-- A segment for slot 0 alone, with some bytes for it. -/
def soleSegment (data : Bytes) (length_lt : data.length < 2 ^ 32) : Segment where
  mask := 1
  records := [⟨Slot.ofNat 0, desktopSource, data, length_lt⟩]
  counted := by rw [maskCount_one]; rfl
  slotFree := by rw [maskCount_one]; decide

def soleInput (data : Bytes) (small : data.length < 2 ^ 16) : SmartBuffer where
  data := (soleSegment data (by omega)).bytes
  dataLength_lt := by
    simp only [soleSegment, Segment.bytes, StreamRecord.bytes,
      StreamRecord.header, List.flatMap_cons, List.flatMap_nil,
      List.length_append, List.length_cons, List.length_nil, length_toLE]
    omega

/-- An audio message of slot 0 that decodes to one frame. -/
def audioSample (timestamp : UInt32) : SmartBuffer :=
  soleInput (flvTagBytes 8 timestamp [0x2f, 7]) (by simp [flvTagBytes])

/-- An SPS/PPS header of slot 0; headers with another `content` differ. -/
def headerSample (timestamp : UInt32) (content : UInt8) : SmartBuffer :=
  soleInput
    (flvTagBytes 9 timestamp
      [0x17, 0, 0, 0, 0, 1, 100, 0, 30, 255, 225, 0, 1, content, 1, 0, 1, 104])
    (by simp [flvTagBytes])

/-- The slices of one picture of slot 0. -/
def pictureSample (timestamp : UInt32) (content : UInt8) : SmartBuffer :=
  soleInput
    (flvTagBytes 9 timestamp [0x27, 1, 0, 0, 0, 0, 0, 0, 1, content])
    (by simp [flvTagBytes])

/-! ## Reading the fields back -/

theorem idSource_id (r : StreamRecord) :
    ((r.idSource &&& 0xf8) >>> 3).toNat = r.id.val := by
  have everyPair :
      ∀ (id : Fin 32) (source : Fin 3),
        ((UInt8.ofNat (id.val * 8 + source.val) &&& 0xf8) >>> 3).toNat =
          id.val := by
    decide +kernel
  exact everyPair r.id r.source

theorem idSource_source (r : StreamRecord) :
    (r.idSource &&& 0x7).toNat = r.source.val := by
  have everyPair :
      ∀ (id : Fin 32) (source : Fin 3),
        (UInt8.ofNat (id.val * 8 + source.val) &&& 0x7).toNat =
          source.val := by
    decide +kernel
  exact everyPair r.id r.source

theorem toLE_four (n : Nat) :
    toLE 4 n = [UInt8.ofNat n, UInt8.ofNat (n / 256),
      UInt8.ofNat (n / 256 / 256), UInt8.ofNat (n / 256 / 256 / 256)] :=
  rfl

theorem maskOf_toLE (streamMask : UInt32) :
    SegmentScan.maskOf (toLE 4 streamMask.toNat) = streamMask := by
  have written : ofLE (toLE 4 streamMask.toNat) = streamMask.toNat :=
    ofLE_toLE_of_lt streamMask.toNat_lt
  rw [toLE_four] at written ⊢
  simp only [SegmentScan.maskOf, List.getD_cons_zero, List.getD_cons_succ,
    written, UInt32.ofNat_toNat]

theorem streamLenOf_header (r : StreamRecord) :
    (SegmentScan.streamLenOf r.header).toNat = r.data.length := by
  have written : ofLE (toLE 4 r.data.length) = r.data.length :=
    ofLE_toLE_of_lt r.length_lt
  rw [StreamRecord.header, toLE_four] at *
  simp only [SegmentScan.streamLenOf, List.cons_append, List.nil_append,
    List.getD_cons_zero, List.getD_cons_succ, written]
  rw [UInt32.toNat_ofNat']
  exact Nat.mod_eq_of_lt r.length_lt

end GroupVoip
