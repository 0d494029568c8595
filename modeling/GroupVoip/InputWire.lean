import GroupVoip.InputObject
import GroupVoip.SegmentFormat

/-!
# The array of an input message

What `toByteBuffer` writes is a segment: a record with one FLV tag for the
stream the message comes from, and an empty record for every other stream of
the mask.  It fills the array exactly.
-/

namespace GroupVoip

open Library.Runs Library.WireBytes

/-- A message of one stream of a group. -/
structure InputMessage where
  input : InputObject
  slot : Slot
  mask : UInt32
  isSet : Streams.maskBit mask slot = true
  slotFree : maskCount mask < MAX_XCODING_INSTANCES
  audioOrVideo : input.msgType = 8 ∨ input.msgType = 9
  nonempty : input.flvFrame ≠ []
  length_lt : input.flvFrame.length < 2 ^ 24

/-! ## Bytes of numbers -/

namespace InputObject

theorem toByte_and (x : UInt32) : toByte (x &&& 0xff) = toByte x := by
  have low : (0xff : UInt32).toNat = 2 ^ 8 - 1 := by decide
  apply UInt8.toNat_inj.mp
  rw [toByte, toByte, UInt32.toNat_toUInt8, UInt32.toNat_toUInt8,
    UInt32.toNat_and, low, Nat.and_two_pow_sub_one_eq_mod]
  exact Nat.mod_mod _ _

theorem toByte_length {n : Nat} (small : n < 2 ^ 24) :
    [toByte ((UInt32.ofNat n >>> 16) &&& 0xff),
      toByte ((UInt32.ofNat n >>> 8) &&& 0xff),
      toByte (UInt32.ofNat n &&& 0xff)] = toBE 3 n := by
  have whole : (UInt32.ofNat n).toNat = n := by
    rw [UInt32.toNat_ofNat']
    exact Nat.mod_eq_of_lt (by omega)
  have written := toLE_toNat (UInt32.ofNat n)
  rw [whole] at written
  simp only [toLE, List.cons.injEq] at written
  obtain ⟨low, middle, high, _⟩ := written
  rw [toByte_and, toByte_and, toByte_and, toByte, toByte, toByte, ← low,
    ← middle, ← high]
  rfl

theorem toByte_idSource (i : Slot) :
    toByte ((UInt32.ofNat i.val <<< 3) ||| kDesktopStreamSource) =
      UInt8.ofNat (i.val * 8 + 1) := by
  have everySlot :
      ∀ i : Fin 32,
        toByte ((UInt32.ofNat i.val <<< 3) ||| kDesktopStreamSource) =
          UInt8.ofNat (i.val * 8 + 1) := by
    decide +kernel
  exact everySlot i

end InputObject

theorem and_shiftLeft_eq_iff (mask : UInt32) (i : Slot) :
    mask &&& (1 <<< UInt32.ofNat i.val) = 1 <<< UInt32.ofNat i.val ↔
      Streams.maskBit mask i = true := by
  have everySlot :
      ∀ i : Fin 32, ((1 : UInt32) <<< UInt32.ofNat i.val).toNat = 2 ^ i.val := by
    decide +kernel
  have positive : 0 < 2 ^ i.val := Nat.two_pow_pos i.val
  rw [← UInt32.toNat_inj, UInt32.toNat_and, everySlot i, Nat.and_two_pow,
    Streams.maskBit_eq_testBit]
  cases mask.toNat.testBit i.val with
  | false =>
      simp only [Bool.toNat_false, Nat.zero_mul, Bool.false_eq_true,
        iff_false]
      omega
  | true => simp

/-- A record is put for every other slot of the mask. -/
theorem InputObject.otherPuts_eq {lookup : MixerLookup} {slot : Slot}
    (isSlot : lookup.mixerId = UInt32.ofNat slot.val) (i : Slot) :
    InputObject.otherPuts lookup i.val =
      if i ≠ slot ∧ Streams.maskBit lookup.mask i = true then
        [[UInt8.ofNat (i.val * 8 + 1)], [0], putInt 0]
      else [] := by
  have taken :
      (UInt32.ofNat i.val ≠ lookup.mixerId ∧
        lookup.mask &&& (1 <<< UInt32.ofNat i.val) =
          1 <<< UInt32.ofNat i.val) ↔
      (i ≠ slot ∧ Streams.maskBit lookup.mask i = true) := by
    rw [isSlot]
    exact and_congr (not_congr ofNat_slot_inj) (and_shiftLeft_eq_iff _ _)
  rw [otherPuts, toByte_idSource]
  exact if_congr taken rfl rfl

/-! ## The segment of a message -/

namespace InputMessage

variable (message : InputMessage)

def lookup : MixerLookup where
  mixerId := UInt32.ofNat message.slot.val
  mask := message.mask
  streams := maskCount message.mask

def tagBytes : Bytes :=
  flvTagBytes message.input.msgType.toUInt8 message.input.eventTime
    message.input.flvFrame

theorem length_tagBytes :
    message.tagBytes.length = 15 + message.input.flvFrame.length := by
  simp only [tagBytes, flvTagBytes, List.length_append, List.length_cons,
    List.length_nil, length_toBE]
  omega

/-- The record of the stream itself. -/
def activeRecord : StreamRecord where
  id := message.slot
  source := desktopSource
  data := message.tagBytes
  length_lt := by
    have small := message.length_lt
    rw [length_tagBytes]
    omega

def others : List Slot :=
  Streams.slots.filter fun i =>
    i ≠ message.slot && Streams.maskBit message.mask i

/-- The record of a stream that has nothing to say. -/
def emptyRecord (i : Slot) : StreamRecord where
  id := i
  source := desktopSource
  data := []
  length_lt := by decide

/-- The slot of the message and the others are all slots of the mask. -/
theorem length_others : message.others.length + 1 = maskCount message.mask :=
  Streams.length_filter_ne message.isSet

def segment : Segment where
  mask := message.mask
  records := message.activeRecord :: message.others.map emptyRecord
  counted := by
    rw [List.length_cons, List.length_map, length_others]
  slotFree := message.slotFree

/-! ## What is put -/

/-- The puts for the stream itself write the head of the segment and its first
record. -/
theorem activePuts_flatten :
    (message.input.activePuts message.lookup).flatten =
      [83, 71, 73, 0] ++ toLE 4 message.mask.toNat ++
        message.activeRecord.bytes := by
  have frameLength :
      InputObject.putInt (11 + UInt32.ofNat message.input.flvFrame.length + 4) =
        toLE 4 message.tagBytes.length := by
    have small := message.length_lt
    have eleven : (11 : UInt32).toNat = 11 := rfl
    have four : (4 : UInt32).toNat = 4 := rfl
    rw [InputObject.putInt, UInt32.toNat_add, UInt32.toNat_add,
      UInt32.toNat_ofNat', eleven, four, length_tagBytes]
    congr 1
    omega
  have idSource :
      InputObject.toByte ((message.lookup.mixerId <<< 3) |||
        kDesktopStreamSource) = message.activeRecord.idSource :=
    InputObject.toByte_idSource message.slot
  have dataLength := InputObject.toByte_length message.length_lt
  rw [StreamRecord.bytes, StreamRecord.header, ← idSource]
  change _ = _ ++ (_ ++ toLE 4 message.tagBytes.length ++ message.tagBytes)
  rw [← frameLength, tagBytes, flvTagBytes, ← dataLength]
  simp only [InputObject.activePuts, InputObject.toByte_and,
    List.flatten_cons, List.flatten_nil, List.cons_append, List.nil_append]
  rfl

theorem otherPuts_flatten (i : Slot) :
    (InputObject.otherPuts message.lookup i.val).flatten =
      if i ≠ message.slot ∧ Streams.maskBit message.mask i = true then
        (emptyRecord i).bytes else [] := by
  have isSlot :
      message.lookup.mixerId = UInt32.ofNat message.slot.val := rfl
  rw [InputObject.otherPuts_eq isSlot]
  change List.flatten (if i ≠ message.slot ∧
    Streams.maskBit message.mask i = true then _ else _) = _
  split
  · rfl
  · rfl

theorem puts_flatten :
    (message.input.puts message.lookup).flatten = message.segment.bytes := by
  have positions : List.range 32 = Streams.slots.map Fin.val := by decide
  have others : ∀ slots : List Slot,
      ((slots.map Fin.val).flatMap
          (InputObject.otherPuts message.lookup)).flatten =
        ((slots.filter fun i =>
          i ≠ message.slot && Streams.maskBit message.mask i).map
            emptyRecord).flatMap StreamRecord.bytes := by
    intro slots
    induction slots with
    | nil => rfl
    | cons i rest inductionHypothesis =>
        rw [List.map_cons, List.flatMap_cons, List.flatten_append,
          inductionHypothesis, otherPuts_flatten, List.filter_cons]
        by_cases other :
            i ≠ message.slot ∧ Streams.maskBit message.mask i = true
        · simp [other]
        · rw [if_neg other, if_neg (by simpa using other), List.nil_append]
  rw [InputObject.puts, List.flatten_append, activePuts_flatten, positions,
    others, Segment.bytes, segment, List.flatMap_cons, ← List.append_assoc]
  rfl

/-! ## The array -/

theorem length_emptyRecords (slots : List Slot) :
    ((slots.map emptyRecord).flatMap StreamRecord.bytes).length =
      6 * slots.length := by
  induction slots with
  | nil => rfl
  | cons i rest inductionHypothesis =>
      have six : (emptyRecord i).bytes.length = 6 := rfl
      rw [List.map_cons, List.flatMap_cons, List.length_append,
        inductionHypothesis, six, List.length_cons]
      omega

theorem length_segment :
    message.segment.bytes.length =
      8 + 6 * maskCount message.mask + (15 + message.input.flvFrame.length) := by
  have active : message.activeRecord.bytes.length =
      6 + message.tagBytes.length := by
    rw [StreamRecord.bytes, StreamRecord.header, List.length_append,
      List.length_append, length_toLE]
    rfl
  rw [segment, Segment.bytes, List.flatMap_cons, List.length_append,
    List.length_append, List.length_append, length_toLE, active,
    length_emptyRecords, length_tagBytes, ← length_others]
  simp only [List.length_cons, List.length_nil]
  omega

theorem totalLen_eq :
    message.input.totalLen message.lookup = message.segment.bytes.length := by
  have small := message.length_lt
  have few := maskCount_le message.mask
  rw [length_segment]
  change (Int32.ofInt (11 + message.input.flvFrame.length + 4 +
    (8 + 6 * (maskCount message.mask : Int)))).toInt = _
  rw [Int32.toInt_ofInt_of_le (by omega) (by omega)]
  omega

/-- The array is filled exactly. -/
theorem toByteBuffer_eq :
    message.input.toByteBuffer message.lookup =
      .ok { capacity := message.segment.bytes.length
            written := message.segment.bytes } := by
  have length := message.totalLen_eq
  have nonneg : ¬ message.input.totalLen message.lookup < 0 := by
    omega
  rw [InputObject.toByteBuffer, ByteBuffer.allocate, if_neg nonneg]
  simp only [Except.bind]
  rw [ByteBuffer.run_put, puts_flatten, length]
  · rfl
  · rw [puts_flatten, length]
    simp

end InputMessage

end GroupVoip
