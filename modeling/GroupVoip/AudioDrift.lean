import GroupVoip.QueueOrder
import Mathlib.Tactic.Linarith

/-!
# How far the mapped audio timestamps drift

The mapper starts again when a timestamp is more than 100 ms behind the one
before it.  A stream whose frames are a little shorter or longer than the
mapper counts never does that, and what it is off adds up.
-/

namespace GroupVoip.AudioTimestampMapper

/-- The mapper after `k` calls, for the timestamps `ts 0`, `ts 1` and so on. -/
def after (ts : Nat → UInt32) : Nat → AudioTimestampMapper
  | 0 => {}
  | k + 1 => ((after ts k).getNextTimestamp (ts k)).2

/-- What the call for `ts k` returns. -/
def returned (ts : Nat → UInt32) (k : Nat) : UInt32 :=
  ((after ts k).getNextTimestamp (ts k)).1

/-- The length of a frame in milliseconds. -/
def frameDuration : ℚ :=
  MP3_FRAME_SAMPLE_SIZE * 1000 / MP3_SAMPLE_PER_SEC

/-! ## Jumps -/

/-- The last timestamp up to `ts k` that is more than 100 ms behind the one
before it.  If there is none this is the first timestamp. -/
def lastJump (ts : Nat → UInt32) : Nat → Nat
  | 0 => 0
  | k + 1 =>
      if (ts k).toNat + 100 < (ts (k + 1)).toNat then k + 1
      else lastJump ts k

/-- Since the last jump the timestamps have advanced by the length of the
frames since then, to within 126 ms. -/
def KeepsPace (ts : Nat → UInt32) (k : Nat) : Prop :=
  (ts k).toNat ≤
      (ts (lastJump ts k)).toNat + elapsed (k - lastJump ts k) + 126 ∧
    (ts (lastJump ts k)).toNat + elapsed (k - lastJump ts k) ≤
      (ts k).toNat + 126

instance (ts : Nat → UInt32) (k : Nat) : Decidable (KeepsPace ts k) :=
  inferInstanceAs (Decidable (_ ∧ _))

variable {ts : Nat → UInt32} {n : Nat}

theorem lastJump_le (ts : Nat → UInt32) (k : Nat) : lastJump ts k ≤ k := by
  induction k with
  | zero => exact le_rfl
  | succ k inductionHypothesis =>
      rw [lastJump]
      split
      · exact le_rfl
      · exact Nat.le_succ_of_le inductionHypothesis

/-- A frame later the end of the frames is at most 27 ms later. -/
theorem elapsed_sub_le {j k : Nat} (le : j ≤ k) :
    elapsed (k + 1 - j) ≤ elapsed (k - j) + 27 := by
  rw [Nat.sub_add_comm le]
  exact elapsed_succ_le _

/-! ## The state of the mapper -/

theorem restarts_iff {m : AudioTimestampMapper} {t : UInt32}
    (started : m.startingTimestamp ≠ MAX_U32)
    (inRange : m.curTimestamp.toNat < 2 ^ 32 - 200) :
    m.restarts t = true ↔ m.curTimestamp.toNat + 100 < t.toNat := by
  have hundred : (100 : UInt32).toNat = 100 := by decide
  have sum : (m.curTimestamp + 100).toNat = m.curTimestamp.toNat + 100 := by
    rw [UInt32.toNat_add, hundred]
    omega
  rw [restarts, Bool.or_eq_true, decide_eq_true_eq, decide_eq_true_eq,
    or_iff_right started, gt_iff_lt, UInt32.lt_iff_toNat_lt, sum]

/-- The mapper counts from the last jump. -/
theorem getNextTimestamp_after
    (inRange : ∀ k, k < n → (ts k).toNat < 2 ^ 32 - 200) (k : Nat)
    (within : k < n) :
    (after ts k).getNextTimestamp (ts k) =
      (UInt32.ofNat ((ts (lastJump ts k)).toNat +
          elapsed (k - lastJump ts k)),
        { startingTimestamp := ts (lastJump ts k)
          cnt := k - lastJump ts k + 1
          curTimestamp := ts k }) := by
  induction k with
  | zero =>
      rw [getNextTimestamp_restart (by rfl)]
      simp [lastJump, elapsed]
  | succ k inductionHypothesis =>
      have before : k < n := Nat.lt_of_succ_lt within
      have reached : after ts (k + 1) =
          { startingTimestamp := ts (lastJump ts k)
            cnt := k - lastJump ts k + 1
            curTimestamp := ts k } := by
        rw [after, inductionHypothesis before]
      have started : ts (lastJump ts k) ≠ MAX_U32 := by
        intro same
        have bound := inRange _ ((lastJump_le ts k).trans_lt before)
        rw [same] at bound
        exact absurd bound (by decide)
      have jumps := restarts_iff (m := after ts (k + 1)) (t := ts (k + 1))
        (by rw [reached]; exact started)
        (by rw [reached]; exact inRange k before)
      rw [reached] at jumps
      by_cases jump : (ts k).toNat + 100 < (ts (k + 1)).toNat
      · rw [reached, getNextTimestamp_restart (jumps.mpr jump), lastJump,
          if_pos jump]
        simp [elapsed]
      · have goesOn := Bool.eq_false_iff.mpr (mt jumps.mp jump)
        have count : k + 1 - lastJump ts k = k - lastJump ts k + 1 :=
          Nat.sub_add_comm (lastJump_le ts k)
        rw [reached, getNextTimestamp_continue goesOn, lastJump, if_neg jump,
          count]

theorem returned_eq (inRange : ∀ k, k < n → (ts k).toNat < 2 ^ 32 - 200)
    {k : Nat} (within : k < n) :
    returned ts k = UInt32.ofNat ((ts (lastJump ts k)).toNat +
      elapsed (k - lastJump ts k)) := by
  rw [returned, getNextTimestamp_after inRange k within]

/-! ## The drift -/

/-- Timestamps are whole, so the fraction of the bound does not count. -/
theorem drift_le_iff (a b : Nat) :
    |(a : ℚ) - b| ≤ 100 + frameDuration ↔ b ≤ a + 126 ∧ a ≤ b + 126 := by
  have duration : frameDuration = 1152 * 1000 / 44100 := by
    norm_num [frameDuration, MP3_FRAME_SAMPLE_SIZE, MP3_SAMPLE_PER_SEC]
  rw [duration, abs_le]
  constructor
  · intro bounds
    obtain ⟨notBehind, notAhead⟩ := bounds
    have first : (b : ℚ) < a + 127 := by linarith
    have second : (a : ℚ) < b + 127 := by linarith
    norm_cast at first second
    exact ⟨Nat.le_of_lt_succ first, Nat.le_of_lt_succ second⟩
  · intro bounds
    obtain ⟨notBehind, notAhead⟩ := bounds
    have first : (b : ℚ) ≤ a + 126 := by exact_mod_cast notBehind
    have second : (a : ℚ) ≤ b + 126 := by exact_mod_cast notAhead
    constructor
    · linarith
    · linarith

/-- As long as the stream has kept pace the cast of the sum keeps all of it:
one more frame cannot reach `2 ^ 32`. -/
theorem sum_lt (inRange : ∀ k, k < n → (ts k).toNat < 2 ^ 32 - 200) {k : Nat}
    (within : k < n) (paced : ∀ i, i < k → KeepsPace ts i) :
    (ts (lastJump ts k)).toNat + elapsed (k - lastJump ts k) < 2 ^ 32 := by
  have here := inRange k within
  cases k with
  | zero =>
      have none : elapsed (0 - lastJump ts 0) = 0 := by
        rw [Nat.zero_sub]
        rfl
      rw [none, lastJump]
      omega
  | succ k =>
      rw [lastJump]
      split
      · have none : elapsed (k + 1 - (k + 1)) = 0 := by
          rw [Nat.sub_self]
          rfl
        omega
      · have before := inRange k (Nat.lt_of_succ_lt within)
        have ahead := (paced k (Nat.lt_succ_self k)).2
        have frame := elapsed_sub_le (lastJump_le ts k)
        omega

theorem drift_iff_keepsPace
    (inRange : ∀ k, k < n → (ts k).toNat < 2 ^ 32 - 200) {k : Nat}
    (within : k < n) (paced : ∀ i, i < k → KeepsPace ts i) :
    |((returned ts k).toNat : ℚ) - (ts k).toNat| ≤ 100 + frameDuration ↔
      KeepsPace ts k := by
  rw [drift_le_iff, returned_eq inRange within, UInt32.toNat_ofNat',
    Nat.mod_eq_of_lt (sum_lt inRange within paced), KeepsPace]

/-- The returned values stay near the timestamps as long as the stream keeps
pace with its frames. -/
theorem drift_bounded_iff (ts : Nat → UInt32) (n : Nat)
    (inRange : ∀ k, k < n → (ts k).toNat < 2 ^ 32 - 200) :
    (∀ k, k < n →
      |((returned ts k).toNat : ℚ) - (ts k).toNat| ≤ 100 + frameDuration) ↔
      ∀ k, k < n → KeepsPace ts k := by
  constructor
  · intro bounded k
    induction k using Nat.strong_induction_on with
    | _ k inductionHypothesis =>
        intro within
        have paced : ∀ i, i < k → KeepsPace ts i := fun i earlier =>
          inductionHypothesis i earlier (earlier.trans within)
        exact (drift_iff_keepsPace inRange within paced).mp (bounded k within)
  · intro paced k within
    have pacedBefore : ∀ i, i < k → KeepsPace ts i := fun i earlier =>
      paced i (earlier.trans within)
    exact (drift_iff_keepsPace inRange within pacedBefore).mpr
      (paced k within)

/-- Frames that come every 26 ms keep pace up to the fiftieth. -/
theorem drift_bounded_fiftiethFrame :
    |((returned (fun k => UInt32.ofNat (26 * k)) 49).toNat : ℚ) -
      (UInt32.ofNat (26 * 49)).toNat| ≤ 100 + frameDuration :=
  (drift_bounded_iff (fun k => UInt32.ofNat (26 * k)) 50 (by decide)).mpr
    (by decide) 49 (by decide)

/-- At the sixth frame with the timestamp 0 the mapper is at 130 ms. -/
theorem drift_unbounded_constant :
    ¬ ∀ (ts : Nat → UInt32) (n : Nat),
      (∀ k, k + 1 < n → ts k ≤ ts (k + 1)) →
      (∀ k, k < n → (ts k).toNat < 2 ^ 32 - 200) →
      ∀ k, k < n →
        |((returned ts k).toNat : ℚ) - (ts k).toNat| ≤
          100 + frameDuration := by
  intro bounded
  have inRange : ∀ k, k < 6 →
      ((fun _ => 0 : Nat → UInt32) k).toNat < 2 ^ 32 - 200 := by
    intro k _
    exact (by decide : (0 : UInt32).toNat < 2 ^ 32 - 200)
  have near := bounded (fun _ => 0) 6 (fun _ _ => UInt32.le_refl 0) inRange 5
    (by decide)
  rw [drift_le_iff, returned_eq inRange (by decide)] at near
  exact absurd near.2 (by decide)

end GroupVoip.AudioTimestampMapper
