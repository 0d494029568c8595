import GroupVoip.FLVSegmentOutput
import GroupVoip.SegmentFormat

/-!
# The segment of an instant

What `getOneFrameForAllStreams` returns: the magic, a mask with a bit for each
slot that has data, a record for each of them in order, and the record of the
mix of all streams.
-/

namespace GroupVoip

open Library.WireBytes

namespace FLVSegmentOutput

/-- The stream of the mix of all. -/
def allIn : OutputSlot :=
  Fin.last MAX_XCODING_INSTANCES

def mobileSlots : List OutputSlot :=
  Streams.slots.map Fin.castSucc

theorem slots_eq : slots = mobileSlots ++ [allIn] := by
  decide

variable (o : FLVSegmentOutput)

def busySlots : List OutputSlot :=
  mobileSlots.filter fun i => o.pending i ≠ []

/-- The records of the segment, each with its slot. -/
def records : List (OutputSlot × Bytes) :=
  o.busySlots.map (fun i => (i, o.pending i)) ++ [(allIn, o.pending allIn)]

def mask : UInt32 :=
  o.countStreams.streamMask

def segment : Bytes :=
  [83, 71, 79] ++ toLE 4 o.mask.toNat ++
    o.records.flatMap fun record => streamRecord record.1 record.2

/-! ## The first loop -/

/-- The buffers of a segment that the format can carry: short ones, none in
the last slot, and not all of them empty. -/
structure Sendable : Prop where
  short : ∀ i, (o.pending i).length ≤ 2 ^ 20
  lastSlotFree : o.pending (Fin.castSucc (Slot.ofNat 31)) = []
  nonempty : ∃ i, o.pending i ≠ []

/-- Buffers that can be counted in 32 bits. -/
structure Fillable : Prop where
  short : ∀ i, (o.pending i).length ≤ 33554432
  nonempty : ∃ i, o.pending i ≠ []

variable {o} in
theorem Sendable.fillable (sendable : o.Sendable) : o.Fillable where
  short i := le_trans (sendable.short i) (by decide)
  nonempty := sendable.nonempty

theorem testBit_shiftLeft (i j : Slot) :
    ((1 : UInt32) <<< UInt32.ofNat i.val).toNat.testBit j.val =
      decide (i = j) := by
  have everyPair :
      ∀ i j : Fin 32,
        ((1 : UInt32) <<< UInt32.ofNat i.val).toNat.testBit j.val =
          decide (i = j) := by
    decide +kernel
  exact everyPair i j

/-- A turn of the loop raises the counters for a busy slot and sets its bit. -/
theorem countStream_mobile (i : Slot) (c : FrameCount)
    (fewStreams : c.totalStreams.toNat + 1 < 2 ^ 32)
    (fewBytes : c.totalLen.toNat +
      (o.pending (Fin.castSucc i)).length < 2 ^ 32) :
    ((o.countStream c (Fin.castSucc i)).totalStreams.toNat =
      c.totalStreams.toNat +
        if o.pending (Fin.castSucc i) ≠ [] then 1 else 0) ∧
    ((o.countStream c (Fin.castSucc i)).totalLen.toNat =
      c.totalLen.toNat + (o.pending (Fin.castSucc i)).length) ∧
    ∀ j : Slot,
      (o.countStream c (Fin.castSucc i)).streamMask.toNat.testBit j.val =
        (c.streamMask.toNat.testBit j.val ||
          decide (j = i ∧ o.pending (Fin.castSucc j) ≠ [])) := by
  have mobile : (Fin.castSucc i).val ≠ MAX_XCODING_INSTANCES := by
    have := i.isLt
    simp only [Fin.val_castSucc]
    omega
  by_cases busy : o.pending (Fin.castSucc i) ≠ []
  · have counted : o.countStream c (Fin.castSucc i) =
        { streamMask := c.streamMask ||| (1 <<< UInt32.ofNat i.val)
          totalLen := c.totalLen +
            UInt32.ofNat (o.pending (Fin.castSucc i)).length
          totalStreams := c.totalStreams + 1 } := by
      rw [countStream, if_pos busy, if_pos mobile]
      rfl
    rw [counted]
    refine ⟨?_, ?_, ?_⟩
    · have one : (1 : UInt32).toNat = 1 := rfl
      rw [if_pos busy, UInt32.toNat_add, one]
      omega
    · rw [UInt32.toNat_add, UInt32.toNat_ofNat']
      omega
    · intro j
      rw [UInt32.toNat_or, Nat.testBit_or, testBit_shiftLeft]
      by_cases here : i = j
      · subst here
        simp [busy]
      · have other : j ≠ i := fun same => here same.symm
        simp [here, other]
  · have counted : o.countStream c (Fin.castSucc i) = c := by
      rw [countStream, if_neg busy, if_neg (fun last => mobile last.1)]
    have idle : o.pending (Fin.castSucc i) = [] := not_not.mp busy
    rw [counted, if_neg busy, idle]
    refine ⟨rfl, rfl, ?_⟩
    intro j
    by_cases here : j = i
    · subst here
      simp [idle]
    · simp [here]

/-- The loop over some of the slots raises the counters for the busy ones and
sets their bits. -/
theorem countStreams_mobile (slots : List Slot) :
    ∀ c : FrameCount, c.totalStreams.toNat + slots.length < 2 ^ 32 →
      c.totalLen.toNat +
        (slots.map fun i => (o.pending (Fin.castSucc i)).length).sum < 2 ^ 32 →
      (((slots.map Fin.castSucc).foldl o.countStream c).totalStreams.toNat =
        c.totalStreams.toNat +
          slots.countP fun i => o.pending (Fin.castSucc i) ≠ []) ∧
      (((slots.map Fin.castSucc).foldl o.countStream c).totalLen.toNat =
        c.totalLen.toNat +
          (slots.map fun i => (o.pending (Fin.castSucc i)).length).sum) ∧
      ∀ j : Slot,
        ((slots.map Fin.castSucc).foldl o.countStream c).streamMask.toNat.testBit
            j.val =
          (c.streamMask.toNat.testBit j.val ||
            decide (j ∈ slots ∧ o.pending (Fin.castSucc j) ≠ [])) := by
  induction slots with
  | nil =>
      intro c _ _
      simp
  | cons i rest inductionHypothesis =>
      intro c fewStreams fewBytes
      rw [List.length_cons] at fewStreams
      rw [List.map_cons, List.sum_cons] at fewBytes
      obtain ⟨streams, bytes, bits⟩ :=
        o.countStream_mobile i c (by omega) (by omega)
      have oneMore : (if o.pending (Fin.castSucc i) ≠ [] then 1 else 0) ≤ 1 := by
        split
        · exact le_refl 1
        · exact Nat.zero_le 1
      obtain ⟨streamsLater, bytesLater, bitsLater⟩ := inductionHypothesis
        (o.countStream c (Fin.castSucc i)) (by omega) (by omega)
      rw [List.map_cons, List.foldl_cons, List.countP_cons, List.map_cons,
        List.sum_cons]
      refine ⟨?_, ?_, ?_⟩
      · rw [streamsLater, streams]
        simp only [decide_eq_true_eq]
        omega
      · rw [bytesLater, bytes]
        omega
      · intro j
        rw [bitsLater, bits, Bool.or_assoc, ← Bool.decide_or]
        simp only [← or_and_right, ← List.mem_cons]

/-- The bytes of the data of all records. -/
def dataLength : Nat :=
  (o.records.map fun record => record.2.length).sum

theorem length_busySlots :
    o.busySlots.length =
      Streams.slots.countP fun i => o.pending (Fin.castSucc i) ≠ [] := by
  rw [busySlots, mobileSlots, ← List.countP_eq_length_filter, List.countP_map]
  rfl

/-- Slots without data add nothing to what is made of the slots' data. -/
theorem flatMap_busy {β : Type} {f : OutputSlot → List β}
    (idle : ∀ i, o.pending i = [] → f i = []) (slots : List OutputSlot) :
    (slots.filter fun i => o.pending i ≠ []).flatMap f = slots.flatMap f := by
  induction slots with
  | nil => rfl
  | cons i rest inductionHypothesis =>
      by_cases busy : o.pending i ≠ []
      · rw [List.filter_cons_of_pos (by simpa using busy), List.flatMap_cons,
          List.flatMap_cons, inductionHypothesis]
      · rw [List.filter_cons_of_neg (by simpa using busy), List.flatMap_cons,
          inductionHypothesis, idle i (not_not.mp busy), List.nil_append]

theorem sum_busySlots (slots : List OutputSlot) :
    ((slots.filter fun i => o.pending i ≠ []).map fun i =>
        (o.pending i).length).sum =
      (slots.map fun i => (o.pending i).length).sum := by
  rw [← List.length_flatMap, ← List.length_flatMap]
  exact congrArg List.length (o.flatMap_busy (fun _ isIdle => isIdle) slots)

theorem dataLength_eq :
    o.dataLength =
      (Streams.slots.map fun i => (o.pending (Fin.castSucc i)).length).sum +
        (o.pending allIn).length := by
  have mobile :
      (mobileSlots.map fun i => (o.pending i).length) =
        Streams.slots.map fun i => (o.pending (Fin.castSucc i)).length := by
    rw [mobileSlots, List.map_map]
    rfl
  rw [dataLength, records, List.map_append, List.map_map, List.sum_append,
    ← mobile, ← sum_busySlots]
  simp only [busySlots, List.map_cons, List.map_nil, List.sum_cons,
    List.sum_nil, Nat.add_zero]
  rfl

theorem length_records : o.records.length = o.busySlots.length + 1 := by
  simp [records]

theorem length_records_le : o.records.length ≤ 33 := by
  rw [length_records, length_busySlots]
  have few : (Streams.slots.countP fun i =>
      o.pending (Fin.castSucc i) ≠ []) ≤ Streams.slots.length :=
    List.countP_le_length
  have all : Streams.slots.length = 32 := by decide
  omega

namespace Fillable

variable {o}

theorem dataLength_le (fillable : o.Fillable) :
    o.dataLength ≤ 33 * 33554432 := by
  have bound : ∀ lengths : List Nat, (∀ n ∈ lengths, n ≤ 33554432) →
      lengths.sum ≤ lengths.length * 33554432 := fun lengths =>
    List.sum_le_card_nsmul lengths 33554432
  have each : ∀ n ∈ o.records.map (fun record => record.2.length),
      n ≤ 33554432 := by
    intro n member
    obtain ⟨record, isRecord, rfl⟩ := List.mem_map.mp member
    rcases List.mem_append.mp isRecord with mobile | last
    · obtain ⟨i, _, rfl⟩ := List.mem_map.mp mobile
      exact fillable.short i
    · rw [List.mem_singleton.mp last]
      exact fillable.short allIn
  calc o.dataLength
      ≤ (o.records.map fun record => record.2.length).length * 33554432 :=
        bound _ each
    _ ≤ 33 * 33554432 := by
        rw [List.length_map]
        exact Nat.mul_le_mul_right _ o.length_records_le

/-- Some record has data. -/
theorem dataLength_pos (fillable : o.Fillable) : 0 < o.dataLength := by
  obtain ⟨i, busy⟩ := fillable.nonempty
  have positive : 0 < (o.pending i).length := List.length_pos_iff.mpr busy
  have isSlot : i ∈ slots := List.mem_finRange i
  have all : o.dataLength = (slots.map fun i => (o.pending i).length).sum := by
    rw [dataLength_eq, slots_eq, List.map_append, List.sum_append, mobileSlots,
      List.map_map]
    rfl
  rw [all]
  exact Nat.lt_of_lt_of_le positive
    (List.single_le_sum (by simp) _ (List.mem_map_of_mem isSlot))

theorem countStreams_eq (fillable : o.Fillable) :
    o.countStreams.totalStreams.toNat = o.records.length ∧
      o.countStreams.totalLen.toNat = o.dataLength ∧
      ∀ j : Slot, o.mask.toNat.testBit j.val =
        decide (o.pending (Fin.castSucc j) ≠ []) := by
  have small := fillable.dataLength_le
  have total := o.dataLength_eq
  have few := o.length_records_le
  have streams : Streams.slots.length = 32 := by decide
  obtain ⟨count, length, bits⟩ := o.countStreams_mobile Streams.slots {}
    (by rw [streams]; decide) (by
      change 0 + _ < _
      omega)
  rw [← length_busySlots] at count
  simp only [mask, countStreams, slots_eq, List.foldl_append, List.foldl_cons,
    List.foldl_nil, mobileSlots]
  have isLast : allIn.val = MAX_XCODING_INSTANCES := rfl
  have zero : (({} : FrameCount).totalStreams).toNat = 0 := rfl
  have zeroLen : (({} : FrameCount).totalLen).toNat = 0 := rfl
  have zeroMask : (({} : FrameCount).streamMask).toNat = 0 := rfl
  have one : (1 : UInt32).toNat = 1 := rfl
  rw [zero, Nat.zero_add] at count
  rw [zeroLen, Nat.zero_add] at length
  rw [length_records] at few ⊢
  have raised : ((List.foldl o.countStream {}
      (Streams.slots.map Fin.castSucc)).totalStreams + 1).toNat =
        o.busySlots.length + 1 := by
    rw [UInt32.toNat_add, count, one]
    omega
  have bitsHere : ∀ j : Slot, (List.foldl o.countStream {}
      (Streams.slots.map Fin.castSucc)).streamMask.toNat.testBit j.val =
        decide (o.pending (Fin.castSucc j) ≠ []) := by
    intro j
    rw [bits, zeroMask]
    simp [Streams.slots]
  by_cases busy : o.pending allIn ≠ []
  · rw [countStream, if_pos busy]
    refine ⟨raised, ?_, ?_⟩
    · rw [UInt32.toNat_add, UInt32.toNat_ofNat', length, total]
      omega
    · intro j
      rw [if_neg (not_not.mpr isLast)]
      exact bitsHere j
  · have idle : o.pending allIn = [] := not_not.mp busy
    have some : 0 < o.busySlots.length := by
      obtain ⟨i, busySlot⟩ := fillable.nonempty
      apply List.length_pos_of_mem (a := i)
      have isSlot : i ∈ slots := List.mem_finRange i
      rw [slots_eq] at isSlot
      rcases List.mem_append.mp isSlot with mobile | last
      · exact List.mem_filter.mpr ⟨mobile, by simpa using busySlot⟩
      · rw [List.mem_singleton.mp last, idle] at busySlot
        exact absurd rfl busySlot
    have positive : (List.foldl o.countStream {}
        (Streams.slots.map Fin.castSucc)).totalStreams > 0 := by
      rw [gt_iff_lt, UInt32.lt_iff_toNat_lt, count]
      exact some
    rw [countStream, if_neg busy, if_pos ⟨isLast, positive⟩]
    refine ⟨raised, ?_, bitsHere⟩
    rw [length, total, idle, List.length_nil, Nat.add_zero]

end Fillable

/-! ## The second loop -/

theorem streamPieces_mobile (slots : List OutputSlot)
    (mobile : ∀ i ∈ slots, i.val ≠ MAX_XCODING_INSTANCES) :
    (slots.map o.streamPiece).flatten =
      ((slots.filter fun i => o.pending i ≠ []).map fun i =>
        (i, o.pending i)).flatMap fun record =>
          streamRecord record.1 record.2 := by
  induction slots with
  | nil => rfl
  | cons i rest inductionHypothesis =>
      have later := inductionHypothesis fun j member =>
        mobile j (List.mem_cons_of_mem i member)
      rw [List.map_cons, List.flatten_cons, later]
      by_cases busy : o.pending i ≠ []
      · rw [List.filter_cons_of_pos (by simpa using busy), List.map_cons,
          List.flatMap_cons, streamPiece, if_pos busy]
      · rw [List.filter_cons_of_neg (by simpa using busy), streamPiece,
          if_neg busy, if_neg (mobile i List.mem_cons_self), List.nil_append]

theorem streamPiece_allIn :
    o.streamPiece allIn = streamRecord allIn (o.pending allIn) := by
  by_cases busy : o.pending allIn ≠ []
  · rw [streamPiece, if_pos busy]
  · have idle : o.pending allIn = [] := not_not.mp busy
    have isLast : allIn.val = MAX_XCODING_INSTANCES := rfl
    rw [streamPiece, if_neg busy, if_pos isLast, idle]

theorem streamPieces_flatten :
    (slots.map o.streamPiece).flatten =
      o.records.flatMap fun record => streamRecord record.1 record.2 := by
  have mobile : ∀ i ∈ mobileSlots, i.val ≠ MAX_XCODING_INSTANCES := by
    decide
  rw [slots_eq, List.map_append, List.flatten_append,
    o.streamPieces_mobile mobileSlots mobile, records, List.flatMap_append,
    List.map_cons, List.map_nil, List.flatten_cons, List.flatten_nil,
    List.append_nil, streamPiece_allIn]
  simp [busySlots]

theorem length_streamRecords (records : List (OutputSlot × Bytes)) :
    (records.flatMap fun record => streamRecord record.1 record.2).length =
      5 * records.length + (records.map fun record => record.2.length).sum := by
  induction records with
  | nil => rfl
  | cons record rest inductionHypothesis =>
      have own : (streamRecord record.1 record.2).length =
          5 + record.2.length := by
        simp only [streamRecord, List.length_append, length_toLE,
          List.length_cons, List.length_nil]
      rw [List.flatMap_cons, List.length_append, inductionHypothesis, own,
        List.map_cons, List.sum_cons, List.length_cons]
      omega

theorem length_segment :
    o.segment.length = 7 + 5 * o.records.length + o.dataLength := by
  rw [segment, List.length_append, List.length_append, length_toLE,
    length_streamRecords, dataLength]
  simp only [List.length_cons, List.length_nil]
  omega

/-- The frame fills its buffer and is the segment; every buffer is reset. -/
theorem Fillable.getOneFrame_eq {o : FLVSegmentOutput} (fillable : o.Fillable) :
    o.getOneFrameForAllStreams = .ok (some o.segment, o.reset) := by
  obtain ⟨streams, bytes, _⟩ := fillable.countStreams_eq
  have some := fillable.dataLength_pos
  have small := fillable.dataLength_le
  have few := o.length_records_le
  have positive : o.countStreams.totalLen > 0 := by
    rw [gt_iff_lt, UInt32.lt_iff_toNat_lt, bytes]
    exact some
  have size :
      (7 + 5 * o.countStreams.totalStreams + o.countStreams.totalLen).toNat =
        o.segment.length := by
    have seven : (7 : UInt32).toNat = 7 := rfl
    have five : (5 : UInt32).toNat = 5 := rfl
    rw [UInt32.toNat_add, UInt32.toNat_add, UInt32.toNat_mul, streams, bytes,
      seven, five, length_segment]
    omega
  have pieces :
      ([[83, 71, 79], toLE 4 o.countStreams.streamMask.toNat] ++
          slots.map o.streamPiece).flatten = o.segment := by
    rw [List.flatten_append, streamPieces_flatten, segment, mask]
    rfl
  rw [getOneFrameForAllStreams, if_pos positive, newBuffer, pieces, size,
    if_pos rfl]
  rfl

theorem reset_pending (i : OutputSlot) : o.reset.pending i = [] := by
  by_cases cleared : o.pending i ≠ [] ∨ i.val = MAX_XCODING_INSTANCES
  · have emptied : o.reset.outputBuffer i = none := if_pos cleared
    rw [pending, emptied]
    rfl
  · have idle : o.pending i = [] := by
      by_contra busy
      exact cleared (Or.inl busy)
    have kept : o.reset.outputBuffer i = o.outputBuffer i := if_neg cleared
    rw [pending, kept]
    exact idle

end FLVSegmentOutput

end GroupVoip
