import GroupVoip.SegmentParserSteps

/-!
# When SegmentParser.readData returns

The loop that shifts the mask out keeps the sign, so it ends for the masks
without their top bit and for no other.  Everything else in a call ends: two
turns of the outer loop use up a byte, and `count_bits` clears a bit at a time.
-/

namespace GroupVoip

open Library.Halting StateTransition

namespace SegmentParser

/-! ## The fields that a call reads -/

inductive WireField where
  | mask (streamMask : Int32)
  | length (curStreamLen : Int)
deriving DecidableEq, Repr

/-- A mask without its top bit. -/
def WireField.ShiftsOut : WireField → Prop
  | .mask streamMask => 0 ≤ streamMask.toInt
  | .length _ => True

instance : DecidablePred WireField.ShiftsOut
  | .mask streamMask => inferInstanceAs (Decidable (0 ≤ streamMask.toInt))
  | .length _ => instDecidableTrue

/-- A record that fits in the buffer. -/
def WireField.Fits : WireField → Prop
  | .mask _ => True
  | .length curStreamLen => curStreamLen.toNat ≤ curBufCapacity

instance : DecidablePred WireField.Fits
  | .mask _ => instDecidableTrue
  | .length curStreamLen =>
      inferInstanceAs (Decidable (curStreamLen.toNat ≤ curBufCapacity))

/-- What a full buffer spells. -/
def fieldOf (s : SegmentParser) (curBuf : Bytes) : List WireField :=
  match s.parsingState with
  | .SEARCHING_SEGHEADER => []
  | .SEARCHING_STREAM_MASK => [.mask (getInt curBuf)]
  | .SEARCHING_STREAM_HEADER => [.length (getInt (curBuf.drop 1)).toInt]
  | .SEARCHING_STREAM_DATA => []

/-- What comes after a full buffer in the format of the wire. -/
def next (s : SegmentParser) (curBuf : Bytes) : SegmentParser :=
  match s.parsingState with
  | .SEARCHING_SEGHEADER => s.waitForMask
  | .SEARCHING_STREAM_MASK =>
      waitForHeader { s with
        numStreams := maskCount (getInt curBuf).toUInt32 + 1 }
  | .SEARCHING_STREAM_HEADER => s.waitForData curBuf
  | .SEARCHING_STREAM_DATA => s.finishStream

/-- The fields among some bytes, read one buffer after the other. -/
def fields : Nat → SegmentParser → Bytes → Bytes → List WireField
  | 0, _, _, _ => []
  | turns + 1, s, curBuf, src =>
      let filled := curBuf ++ src.take (s.wanted - curBuf.length)
      if src ≠ [] ∧ s.wanted ≤ filled.length then
        s.fieldOf filled ++
          fields turns (s.next filled) []
            (src.drop (s.wanted - curBuf.length))
      else []

/-- The fields that the bytes of a call complete. -/
def fieldsRead (s : SegmentParser) (curBuf src : Bytes) : List WireField :=
  fields (2 * src.length + 1) s curBuf src

/-- The record being read fits. -/
def CurrentFits (s : SegmentParser) : Prop :=
  s.wanted ≤ curBufCapacity

instance (s : SegmentParser) : Decidable s.CurrentFits :=
  inferInstanceAs (Decidable (s.wanted ≤ curBufCapacity))

/-- The buffer is not full between turns. -/
def Waiting (s : SegmentParser) (curBuf : Bytes) : Prop :=
  curBuf.length < s.wanted ∨ curBuf = []

/-! ## The loops inside a turn -/

theorem toUInt32_ne_zero {n : Int32} (nonzero : n ≠ 0) : n.toUInt32 ≠ 0 :=
  fun same => nonzero (congrArg UInt32.toInt32 same)

namespace ReadDataCall

/-- `count_bits` ends with the number of bits. -/
theorem eval_count_bits (k : Nat) :
    ∀ (n : Int32) (c : Int) (streamMask : Int32) (call : ReadDataCall),
      maskCount n.toUInt32 = k → call.control = .count_bits streamMask n c →
        eval step call =
          eval step { call with
            control := .shiftMask streamMask
            parser := { call.parser with numStreams := c + k + 1 } } := by
  induction k with
  | zero =>
      intro n c streamMask call few counting
      have zero : n = 0 := by
        by_contra nonzero
        have smaller := maskCount_cleared (toUInt32_ne_zero nonzero)
        omega
      apply eval_step
      simp [step, counting, zero]
  | succ k inductionHypothesis =>
      intro n c streamMask call few counting
      have nonzero : n ≠ 0 := by
        intro zero
        rw [zero] at few
        have nothing : maskCount (0 : Int32).toUInt32 = 0 := maskCount_zero
        omega
      have smaller : maskCount (n &&& (n - 1)).toUInt32 + 1 =
          maskCount n.toUInt32 := maskCount_cleared (toUInt32_ne_zero nonzero)
      have stepped : step call = some { call with
          control := .count_bits streamMask (n &&& (n - 1)) (c + 1) } := by
        simp [step, counting, nonzero]
      rw [eval_step stepped, inductionHypothesis (n &&& (n - 1)) (c + 1)
        streamMask _ (by omega) rfl]
      have sum : c + 1 + (k : Int) + 1 = c + ((k + 1 : Nat) : Int) + 1 := by
        omega
      rw [sum]

/-- A mask that is not negative is shifted out. -/
theorem eval_shiftMask (size : Nat) :
    ∀ (streamMask : Int32) (call : ReadDataCall),
      0 ≤ streamMask.toInt → streamMask.toInt < 2 ^ size →
      call.control = .shiftMask streamMask →
        eval step call =
          eval step { call with
            control := .whileLoop
            curBuf := []
            parser := call.parser.waitForHeader } := by
  induction size with
  | zero =>
      intro streamMask call nonneg small shifting
      have zero : streamMask = 0 := by
        apply Int32.toInt_inj.mp
        have isZero : (0 : Int32).toInt = 0 := rfl
        omega
      apply eval_step
      simp [step, shifting, zero]
  | succ size inductionHypothesis =>
      intro streamMask call nonneg small shifting
      by_cases zero : streamMask = 0
      · apply eval_step
        simp [step, shifting, zero]
      · have half := shiftRight_toInt streamMask
        have stepped : step call = some { call with
            control := .shiftMask (streamMask >>> 1) } := by
          simp [step, shifting, zero]
        rw [Int.pow_succ] at small
        rw [eval_step stepped, inductionHypothesis (streamMask >>> 1) _
          (by omega) (by omega) rfl]

/-- A negative mask stays negative. -/
theorem shiftMask_endless {streamMask : Int32} {call : ReadDataCall}
    (negative : streamMask.toInt < 0)
    (shifting : call.control = .shiftMask streamMask) (final : ReadDataCall) :
    final ∉ eval step call := by
  apply not_mem_eval (fun call => ∃ streamMask : Int32,
    call.control = .shiftMask streamMask ∧ streamMask.toInt < 0)
  · intro call inside
    obtain ⟨streamMask, shifting, negative⟩ := inside
    have nonzero : streamMask ≠ 0 := by
      intro zero
      rw [zero] at negative
      exact absurd negative (Int.lt_irrefl 0)
    have half := shiftRight_toInt streamMask
    refine ⟨{ call with control := .shiftMask (streamMask >>> 1) }, ?_,
      streamMask >>> 1, rfl, by omega⟩
    simp [step, shifting, nonzero]
  · exact ⟨streamMask, shifting, negative⟩

/-- A mask is got through exactly if it is shifted out. -/
theorem returns_mask_iff {streamMask : Int32} {call : ReadDataCall}
    (counting : call.control = .count_bits streamMask streamMask 0) :
    Returns call ↔
      0 ≤ streamMask.toInt ∧
        Returns { call with
          control := .whileLoop
          curBuf := []
          parser := waitForHeader { call.parser with
            numStreams := maskCount streamMask.toUInt32 + 1 } } := by
  have counted := eval_count_bits _ streamMask 0 streamMask call rfl counting
  rw [Int.zero_add] at counted
  by_cases nonneg : 0 ≤ streamMask.toInt
  · have small : streamMask.toInt < 2 ^ 31 := streamMask.toInt_lt
    have shifted := eval_shiftMask 31 streamMask { call with
      control := .shiftMask streamMask
      parser := { call.parser with
        numStreams := maskCount streamMask.toUInt32 + 1 } } nonneg small rfl
    rw [Returns, Returns, counted, shifted]
    simp only [nonneg, true_and]
  · have endless := shiftMask_endless (Int.not_le.mp nonneg)
      (rfl : ({ call with
        control := .shiftMask streamMask
        parser := { call.parser with
          numStreams := maskCount streamMask.toUInt32 + 1 } } :
          ReadDataCall).control = .shiftMask streamMask)
    constructor
    · intro returns
      obtain ⟨final, ends, _⟩ := returns
      rw [counted] at ends
      exact absurd ends (endless final)
    · intro both
      exact absurd both.1 nonneg

theorem returns_of_step {call next : ReadDataCall}
    (stepped : step call = some next) : Returns call ↔ Returns next := by
  rw [Returns, Returns, eval_step stepped]

theorem returns_of_empty {call : ReadDataCall}
    (looping : call.control = .whileLoop) (empty : call.src = []) :
    Returns call := by
  have stepped : step call = some { call with control := .returned } := by
    simp [step, looping, empty]
  refine ⟨{ call with control := .returned }, ?_, rfl⟩
  rw [eval_step stepped]
  exact mem_eval_stopped rfl

end ReadDataCall

/-! ## The loop over the bytes -/

theorem finishStream_wanted (s : SegmentParser) :
    s.finishStream.wanted = if s.curStreamCnt - 1 > 0 then 5 else 3 := by
  by_cases more : s.curStreamCnt - 1 > 0
  · simp only [finishStream, wanted, if_pos more]
  · simp only [finishStream, wanted, if_neg more]

theorem next_wanted_pos {s : SegmentParser} (curBuf : Bytes)
    (nothing : s.wanted = 0) : 0 < (s.next curBuf).wanted := by
  cases state : s.parsingState with
  | SEARCHING_SEGHEADER => simp [wanted, state] at nothing
  | SEARCHING_STREAM_MASK => simp [wanted, state] at nothing
  | SEARCHING_STREAM_HEADER => simp [wanted, state] at nothing
  | SEARCHING_STREAM_DATA =>
      simp only [next, state, finishStream_wanted]
      split <;> omega

/-- A record that the next state waits for is a length that was just read. -/
theorem next_currentFits {s : SegmentParser} {curBuf : Bytes}
    (fit : ∀ field ∈ s.fieldOf curBuf, field.Fits) :
    (s.next curBuf).CurrentFits := by
  have capacity : curBufCapacity = 2 ^ 20 := rfl
  cases state : s.parsingState with
  | SEARCHING_SEGHEADER =>
      simp [CurrentFits, next, state, waitForMask, wanted, capacity]
  | SEARCHING_STREAM_MASK =>
      simp [CurrentFits, next, state, waitForHeader, wanted, capacity]
  | SEARCHING_STREAM_HEADER =>
      simp only [fieldOf, state, List.forall_mem_singleton] at fit
      simp only [CurrentFits, next, state, waitForData, wanted]
      exact fit
  | SEARCHING_STREAM_DATA =>
      simp only [CurrentFits, next, state, finishStream_wanted, capacity]
      split <;> omega

namespace ReadDataCall

theorem put_eq (call : ReadDataCall) :
    call.put.curBuf = call.curBuf ++
        call.src.take (call.parser.wanted - call.curBuf.length) ∧
      call.put.src =
        call.src.drop (call.parser.wanted - call.curBuf.length) := by
  rw [put, cpLen]
  rcases Nat.le_total call.src.length
    (call.parser.wanted - call.curBuf.length) with short | long
  · rw [Nat.min_eq_left short, List.take_of_length_le short,
      List.drop_of_length_le short, List.take_length, List.drop_length]
    exact ⟨rfl, rfl⟩
  · rw [Nat.min_eq_right long]
    exact ⟨rfl, rfl⟩

/-- A buffer that fits is filled without an exception. -/
theorem turn_of_fits (call : ReadDataCall) (fits : call.parser.CurrentFits)
    (waiting : Waiting call.parser call.curBuf) :
    call.turn =
      if call.parser.wanted ≤ call.put.curBuf.length then call.put.full
      else call.put := by
  have room : ¬ curBufCapacity < call.curBuf.length + call.cpLen := by
    have fits : call.parser.wanted ≤ curBufCapacity := fits
    rw [cpLen]
    rcases waiting with short | empty
    · omega
    · rw [empty, List.length_nil]
      omega
  rw [turn, if_neg room]

/-- A full buffer is done with once its mask, if it is one, is shifted out. -/
theorem returns_full_iff (call : ReadDataCall)
    (looping : call.control = .whileLoop) :
    ∃ parsed,
      (Returns call.full ↔
        (∀ field ∈ call.parser.fieldOf call.curBuf, field.ShiftsOut) ∧
          Returns ⟨.whileLoop, call.parser.next call.curBuf, [], call.src,
            parsed⟩) := by
  cases state : call.parser.parsingState with
  | SEARCHING_SEGHEADER =>
      refine ⟨call.parsed, ?_⟩
      simp [full, fieldOf, next, state, looping]
  | SEARCHING_STREAM_MASK =>
      refine ⟨call.parsed, ?_⟩
      have counting : call.full.control =
          .count_bits (getInt call.curBuf) (getInt call.curBuf) 0 := by
        simp [full, state]
      rw [returns_mask_iff counting]
      simp [full, fieldOf, next, state, WireField.ShiftsOut]
  | SEARCHING_STREAM_HEADER =>
      refine ⟨call.parsed, ?_⟩
      simp [full, fieldOf, next, state, looping, WireField.ShiftsOut]
  | SEARCHING_STREAM_DATA =>
      refine ⟨call.full.parsed, ?_⟩
      simp [full, fieldOf, next, state, looping]

theorem fields_empty (turns : Nat) (s : SegmentParser) (curBuf : Bytes) :
    fields turns s curBuf [] = [] := by
  cases turns <;> simp [fields]

theorem fields_full {turns : Nat} {s : SegmentParser} {curBuf src : Bytes}
    (nonempty : src ≠ [])
    (full : s.wanted ≤
      (curBuf ++ src.take (s.wanted - curBuf.length)).length) :
    fields (turns + 1) s curBuf src =
      s.fieldOf (curBuf ++ src.take (s.wanted - curBuf.length)) ++
        fields turns (s.next (curBuf ++ src.take (s.wanted - curBuf.length)))
          [] (src.drop (s.wanted - curBuf.length)) :=
  if_pos ⟨nonempty, full⟩

theorem fields_short {turns : Nat} {s : SegmentParser} {curBuf src : Bytes}
    (short : ¬ s.wanted ≤
      (curBuf ++ src.take (s.wanted - curBuf.length)).length) :
    fields (turns + 1) s curBuf src = [] :=
  if_neg fun both => short both.2

/-- Two turns for each byte are enough, for one of them takes a byte. -/
theorem turns_left {s : SegmentParser} {curBuf src : Bytes} {turns : Nat}
    (nonempty : src ≠ []) (waiting : Waiting s curBuf)
    (enough : 2 * src.length + (if s.wanted = 0 then 1 else 0) ≤ turns + 1)
    (filled : Bytes) :
    2 * (src.drop (s.wanted - curBuf.length)).length +
      (if (s.next filled).wanted = 0 then 1 else 0) ≤ turns := by
  have some := List.length_pos_of_ne_nil nonempty
  rw [List.length_drop]
  by_cases nothing : s.wanted = 0
  · have positive := next_wanted_pos filled nothing
    rw [if_pos nothing] at enough
    rw [if_neg (by omega)]
    omega
  · have takes : 0 < s.wanted - curBuf.length := by
      rcases waiting with short | empty
      · omega
      · rw [empty, List.length_nil]
        omega
    rw [if_neg nothing] at enough
    split <;> omega

theorem returns_iff_fields (turns : Nat) :
    ∀ (s : SegmentParser) (curBuf src : Bytes) (parsed : List ParsedFrame),
      2 * src.length + (if s.wanted = 0 then 1 else 0) ≤ turns →
      Waiting s curBuf → s.CurrentFits →
      (∀ field ∈ fields turns s curBuf src, field.Fits) →
        (Returns ⟨.whileLoop, s, curBuf, src, parsed⟩ ↔
          ∀ field ∈ fields turns s curBuf src, field.ShiftsOut) := by
  induction turns with
  | zero =>
      intro s curBuf src parsed enough _ _ _
      have empty : src = [] := by
        rw [← List.length_eq_zero_iff]
        omega
      rw [empty, fields_empty]
      exact iff_of_true (returns_of_empty rfl rfl) (by simp)
  | succ turns inductionHypothesis =>
      intro s curBuf src parsed enough waiting fits fit
      by_cases empty : src = []
      · rw [empty, fields_empty]
        exact iff_of_true (returns_of_empty rfl rfl) (by simp)
      · let call : ReadDataCall := ⟨.whileLoop, s, curBuf, src, parsed⟩
        obtain ⟨isFilled, isLeft⟩ := put_eq call
        have stepped : step call = some call.turn := by
          simp [step, call, empty]
        have turned := turn_of_fits call fits waiting
        rw [isFilled] at turned
        by_cases full : s.wanted ≤
            (curBuf ++ src.take (s.wanted - curBuf.length)).length
        · obtain ⟨parsed', settled⟩ := returns_full_iff call.put rfl
          rw [isFilled, isLeft] at settled
          rw [fields_full empty full, List.forall_mem_append] at fit ⊢
          have rest := inductionHypothesis _ _ _ parsed'
            (turns_left empty waiting enough _) (Or.inr rfl)
            (next_currentFits fit.1) fit.2
          rw [returns_of_step stepped, turned, if_pos full, ← rest]
          exact settled
        · rw [fields_short full]
          have short : src.length ≤ s.wanted - curBuf.length := by
            rw [List.length_append, List.length_take] at full
            omega
          have used : call.put.src = [] := by
            rw [isLeft]
            exact List.drop_of_length_le short
          rw [returns_of_step stepped, turned, if_neg full]
          exact iff_of_true (returns_of_empty rfl used) (by simp)

/-! ## Between calls -/

/-- Outside the inner loops the buffer waits. -/
def Waits (call : ReadDataCall) : Prop :=
  call.control = .whileLoop ∨ call.control = .returned →
    Waiting call.parser call.curBuf

theorem waits_full (call : ReadDataCall) : call.full.Waits ∨
    call.parser.parsingState = .SEARCHING_STREAM_MASK := by
  cases state : call.parser.parsingState with
  | SEARCHING_STREAM_MASK => exact Or.inr rfl
  | SEARCHING_SEGHEADER =>
      left
      intro _
      simp [Waiting, full, state]
  | SEARCHING_STREAM_HEADER =>
      left
      intro _
      simp [Waiting, full, state]
  | SEARCHING_STREAM_DATA =>
      left
      intro _
      simp [Waiting, full, state]

theorem waits_turn (call : ReadDataCall) : call.turn.Waits := by
  rw [turn]
  split
  · intro outside
    simp at outside
  · split
    · rcases waits_full call.put with waits | mask
      · exact waits
      · intro outside
        simp [full, mask] at outside
    · rename_i short
      exact fun _ => Or.inl (Nat.not_le.mp short)

theorem waits_step (call next : ReadDataCall) (waits : call.Waits)
    (stepped : step call = some next) : next.Waits := by
  cases at_ : call.control with
  | whileLoop =>
      simp only [step, at_] at stepped
      split at stepped
      · cases stepped
        exact fun _ => waits (Or.inl at_)
      · cases stepped
        exact call.waits_turn
  | count_bits streamMask n c =>
      simp only [step, at_] at stepped
      split at stepped
      · cases stepped
        intro outside
        simp at outside
      · cases stepped
        intro outside
        simp at outside
  | shiftMask streamMask =>
      simp only [step, at_] at stepped
      split at stepped
      · cases stepped
        intro outside
        simp at outside
      · cases stepped
        exact fun _ => Or.inr rfl
  | returned => simp [step, at_] at stepped
  | thrown => simp [step, at_] at stepped

end ReadDataCall

theorem Reachable.waiting {s : SegmentParser} {curBuf : Bytes}
    (reachable : Reachable s curBuf) : Waiting s curBuf := by
  induction reachable with
  | start => exact Or.inr rfl
  | readData _ ends returned inductionHypothesis =>
      exact eval_invariant ReadDataCall.Waits ReadDataCall.waits_step
        (fun _ => inductionHypothesis) ends (Or.inr returned)

/-- Between calls, a call whose records fit in the buffer returns exactly if no
mask that it reads has its top bit set. -/
theorem readData_returns_iff {s : SegmentParser} {curBuf : Bytes}
    (reachable : Reachable s curBuf) (src : Bytes) (fits : s.CurrentFits)
    (fit : ∀ field ∈ s.fieldsRead curBuf src, field.Fits) :
    (s.readDataCall curBuf src).Returns ↔
      ∀ field ∈ s.fieldsRead curBuf src, field.ShiftsOut := by
  apply ReadDataCall.returns_iff_fields _ s curBuf src [] _
    reachable.waiting fits fit
  split <;> omega

/-- A segment with the mask of slot zero, its two records without data. -/
theorem readData_returns_slotZero :
    (readDataCall {} [] [83, 71, 79, 1, 0, 0, 0, 0, 0, 0, 0, 0,
      32, 0, 0, 0, 0]).Returns :=
  (readData_returns_iff .start [83, 71, 79, 1, 0, 0, 0, 0, 0, 0, 0, 0,
    32, 0, 0, 0, 0] (by decide) (by decide +kernel)).mpr (by decide +kernel)

/-- The mask of slot 31 is negative. -/
theorem readData_endless_slotLast :
    Reachable {} [] ∧ CurrentFits {} ∧
      (∀ field ∈ fieldsRead {} [] [83, 71, 79, 0, 0, 0, 128], field.Fits) ∧
        ¬ (readDataCall {} [] [83, 71, 79, 0, 0, 0, 128]).Returns := by
  have fits : CurrentFits {} := by decide
  have fit : ∀ field ∈ fieldsRead {} [] [83, 71, 79, 0, 0, 0, 128],
      field.Fits := by decide +kernel
  refine ⟨.start, fits, fit, ?_⟩
  have exact_ := ReadDataCall.returns_iff_fields 15 {} []
    [83, 71, 79, 0, 0, 0, 128] [] (by decide) (Or.inr rfl) fits fit
  intro returns
  have impossible := exact_.mp returns
  revert impossible
  decide +kernel

end SegmentParser

end GroupVoip
