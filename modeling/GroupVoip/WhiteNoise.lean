import GroupVoip.AudioMixer
import Mathlib.Algebra.Field.Rat
import Mathlib.Data.Rat.Floor
import Mathlib.Tactic.Ring

/-!
# White noise

A frame without streams is noise: every turn draws two places of the buffer.
The range of a draw has one number too many, so the largest results of `rand`
give the place behind the end.

A `double` is a rational here, and `RAND_MAX` is a parameter.
-/

namespace GroupVoip

open Library.Buffers Library.Runs

namespace WhiteNoise

/-- The cast to `int`, which drops the fraction. -/
def truncated (q : ℚ) : Int :=
  q.num.tdiv q.den

/-- The sum with one is that of an `int`. -/
def randInRange {RAND_MAX : Nat} (rand : Fin (RAND_MAX + 1)) (max : Int) :
    Except Abort Int :=
  if max + 1 > 2147483647 then .error .undefinedBehaviour
  else
    let frac : ℚ := (rand.val : ℚ) / ((RAND_MAX : ℚ) + 1)
    .ok (truncated (frac * ((max + 1 : Int) : ℚ)))

/-- `buffer[idx] = sample`. -/
def store {n : Nat} (buffer : Buffer Int16 n) (idx : Int) (sample : Int16) :
    Except Abort (Buffer Int16 n) :=
  if idx < 0 then .error .undefinedBehaviour
  else inBounds (buffer.write idx.toNat [sample])

variable {RAND_MAX : Nat}

/-- One turn of the loop, which takes two results of `rand`. -/
def noiseTurn (rand : Nat → Fin (RAND_MAX + 1)) (bufSize : Nat)
    (buffer : Buffer Int16 bufSize) (i : Nat) :
    Except Abort (Buffer Int16 bufSize) := do
  let idx ← randInRange (rand i) bufSize
  let buffer ← store buffer idx 2
  let idx ← randInRange (rand (i + 1)) bufSize
  store buffer idx (-2)

def genWhiteNoise (rand : Nat → Fin (RAND_MAX + 1)) (bufSize : Nat) :
    Except Abort (Buffer Int16 bufSize) :=
  run (noiseTurn rand bufSize) (Buffer.fresh (fun _ => 0) bufSize)
    ((List.range bufSize).filter fun i => i % 2 = 0)

/-- How many results of `rand` are taken, two in every turn. -/
def draws (bufSize : Nat) : Nat :=
  bufSize + bufSize % 2

/-- Every place that is written is in the buffer, and the samples are those
of the noise in the end. -/
structure StaysInside (rand : Nat → Fin (RAND_MAX + 1)) (bufSize : Nat) :
    Prop where
  places : ∀ i, i < draws bufSize → ∃ idx,
    randInRange (rand i) bufSize = .ok idx ∧ 0 ≤ idx ∧ idx < bufSize
  samples : ∃ buffer, genWhiteNoise rand bufSize = .ok buffer ∧
    ∀ sample, sample ∈ buffer.cells →
      sample = 0 ∨ sample = 2 ∨ sample = -2

/-! ## The places -/

theorem truncated_of_nonneg {q : ℚ} (nonneg : 0 ≤ q) : truncated q = ⌊q⌋ := by
  rw [truncated, Int.tdiv_eq_ediv_of_nonneg (Rat.num_nonneg.mpr nonneg),
    Rat.floor_def']

/-- The place that a result of `rand` stands for. -/
def place (rand : Fin (RAND_MAX + 1)) (bufSize : Nat) : Nat :=
  rand.val * (bufSize + 1) / (RAND_MAX + 1)

theorem randInRange_eq (rand : Fin (RAND_MAX + 1)) {bufSize : Nat}
    (fits : bufSize < 2147483647) :
    randInRange rand bufSize = .ok (place rand bufSize : Int) := by
  have quotient :
      (rand.val : ℚ) / ((RAND_MAX : ℚ) + 1) *
          (((bufSize : Int) + 1 : Int) : ℚ) =
        ((rand.val * (bufSize + 1) : Nat) : ℚ) /
          ((RAND_MAX + 1 : Nat) : ℚ) := by
    push_cast
    ring
  have nonneg : (0 : ℚ) ≤
      ((rand.val * (bufSize + 1) : Nat) : ℚ) /
        ((RAND_MAX + 1 : Nat) : ℚ) := by
    positivity
  rw [randInRange, if_neg (by omega)]
  dsimp only
  rw [quotient, truncated_of_nonneg nonneg]
  exact congrArg Except.ok (Rat.floor_intCast_div_natCast _ _)

/-- A draw is in the buffer, or it is the place behind the end. -/
theorem place_le (rand : Fin (RAND_MAX + 1)) (bufSize : Nat) :
    place rand bufSize ≤ bufSize := by
  apply Nat.le_of_lt_succ
  rw [place, Nat.div_lt_iff_lt_mul (Nat.succ_pos _), Nat.mul_comm]
  exact Nat.mul_lt_mul_of_pos_left rand.isLt (Nat.succ_pos bufSize)

theorem place_lt_iff (rand : Fin (RAND_MAX + 1)) (bufSize : Nat) :
    place rand bufSize < bufSize ↔
      rand.val * (bufSize + 1) < bufSize * (RAND_MAX + 1) :=
  Nat.div_lt_iff_lt_mul (Nat.succ_pos _)

/-- The size is below that of the largest `int`, and no result of `rand` is
so large that it draws the place behind the end. -/
def Inside (rand : Nat → Fin (RAND_MAX + 1)) (bufSize : Nat) : Prop :=
  bufSize < 2147483647 ∧ ∀ i, i < draws bufSize →
    (rand i).val * (bufSize + 1) < bufSize * (RAND_MAX + 1)

instance (rand : Nat → Fin (RAND_MAX + 1)) (bufSize : Nat) :
    Decidable (Inside rand bufSize) :=
  inferInstanceAs (Decidable (_ ∧ ∀ i, i < draws bufSize → _))

/-! ## The loop -/

/-- The samples of the noise. -/
def IsNoise (sample : Int16) : Prop :=
  sample = 0 ∨ sample = 2 ∨ sample = -2

theorem store_natCast {n : Nat} (buffer : Buffer Int16 n) (idx : Nat)
    (sample : Int16) :
    store buffer idx sample = inBounds (buffer.write idx [sample]) := by
  rw [store, if_neg (by omega), Int.toNat_natCast]

theorem store_of_lt {n idx : Nat} (buffer : Buffer Int16 n)
    (sample : Int16) (inside : idx < n) :
    ∃ next, store buffer idx sample = .ok next ∧
      ∀ x, x ∈ next.cells → x ∈ buffer.cells ∨ x = sample := by
  obtain ⟨next, isNext⟩ := buffer.exists_write idx [sample] inside
  refine ⟨next, ?_, ?_⟩
  · rw [store_natCast, isNext, inBounds]
  · intro x member
    rcases Buffer.mem_write isNext member with before | isNew
    · exact Or.inl before
    · exact Or.inr (List.mem_singleton.mp isNew)

theorem lt_of_store {n idx : Nat} {buffer next : Buffer Int16 n}
    {sample : Int16} (stored : store buffer idx sample = .ok next) :
    idx < n := by
  rw [store_natCast] at stored
  cases isWritten : buffer.write idx [sample] with
  | none =>
      rw [isWritten] at stored
      cases stored
  | some other => exact (Buffer.write_eq_some isWritten).1

theorem noiseTurn_eq {rand : Nat → Fin (RAND_MAX + 1)} {bufSize : Nat}
    (fits : bufSize < 2147483647) (buffer : Buffer Int16 bufSize) (i : Nat) :
    noiseTurn rand bufSize buffer i =
      store buffer (place (rand i) bufSize) 2 >>= fun next =>
        store next (place (rand (i + 1)) bufSize) (-2) := by
  rw [noiseTurn, randInRange_eq _ fits, randInRange_eq _ fits]
  rfl

/-- A turn whose draws are in the buffer leaves noise behind. -/
theorem noiseTurn_kept {rand : Nat → Fin (RAND_MAX + 1)} {bufSize i : Nat}
    (fits : bufSize < 2147483647)
    (first : place (rand i) bufSize < bufSize)
    (second : place (rand (i + 1)) bufSize < bufSize)
    {buffer : Buffer Int16 bufSize}
    (noise : ∀ x, x ∈ buffer.cells → IsNoise x) :
    ∃ next, noiseTurn rand bufSize buffer i = .ok next ∧
      ∀ x, x ∈ next.cells → IsNoise x := by
  obtain ⟨middle, stored, middleCells⟩ := store_of_lt buffer 2 first
  obtain ⟨next, storedToo, nextCells⟩ := store_of_lt middle (-2) second
  refine ⟨next, ?_, ?_⟩
  · rw [noiseTurn_eq fits, stored]
    exact storedToo
  · intro x member
    rcases nextCells x member with inMiddle | isSecond
    · rcases middleCells x inMiddle with before | isFirst
      · exact noise x before
      · exact Or.inr (Or.inl isFirst)
    · exact Or.inr (Or.inr isSecond)

theorem mem_turns {bufSize i : Nat} :
    i ∈ (List.range bufSize).filter (fun i => i % 2 = 0) ↔
      i < bufSize ∧ i % 2 = 0 := by
  simp

/-- A generator that comes to its end has drawn no place outside. -/
theorem place_lt_of_genWhiteNoise {rand : Nat → Fin (RAND_MAX + 1)}
    {bufSize : Nat} (fits : bufSize < 2147483647)
    {buffer : Buffer Int16 bufSize}
    (ran : genWhiteNoise rand bufSize = .ok buffer) {i : Nat}
    (isDrawn : i < draws bufSize) : place (rand i) bufSize < bufSize := by
  rw [draws] at isDrawn
  have isTurn : i / 2 * 2 ∈
      (List.range bufSize).filter (fun i => i % 2 = 0) :=
    mem_turns.mpr ⟨by omega, by omega⟩
  obtain ⟨s, t, turned⟩ := exists_step_of_run ran isTurn
  rw [noiseTurn_eq fits] at turned
  obtain ⟨middle, stored, storedToo⟩ := bind_ok.mp turned
  by_cases isFirst : i % 2 = 0
  · rw [show i / 2 * 2 = i by omega] at stored
    exact lt_of_store stored
  · rw [show i / 2 * 2 + 1 = i by omega] at storedToo
    exact lt_of_store storedToo

theorem genWhiteNoise_noise {rand : Nat → Fin (RAND_MAX + 1)}
    {bufSize : Nat} (fits : bufSize < 2147483647)
    (places : ∀ i, i < draws bufSize → place (rand i) bufSize < bufSize) :
    ∃ buffer, genWhiteNoise rand bufSize = .ok buffer ∧
      ∀ x, x ∈ buffer.cells → IsNoise x := by
  apply exists_run_invariant
  · intro i member buffer noise
    obtain ⟨isTurn, isEven⟩ := mem_turns.mp member
    exact noiseTurn_kept fits (places i (by rw [draws]; omega))
      (places (i + 1) (by rw [draws]; omega)) noise
  · intro x member
    obtain ⟨i, _, isZero⟩ := List.mem_map.mp member
    exact Or.inl isZero.symm

theorem genWhiteNoise_ok_iff {rand : Nat → Fin (RAND_MAX + 1)}
    {bufSize : Nat} (fits : bufSize < 2147483647) :
    (∃ buffer, genWhiteNoise rand bufSize = .ok buffer) ↔
      Inside rand bufSize := by
  constructor
  · intro ended
    obtain ⟨buffer, ran⟩ := ended
    refine ⟨fits, fun i isDrawn => (place_lt_iff (rand i) bufSize).mp ?_⟩
    exact place_lt_of_genWhiteNoise fits ran isDrawn
  · intro inside
    obtain ⟨buffer, ran, _⟩ := genWhiteNoise_noise fits fun i isDrawn =>
      (place_lt_iff (rand i) bufSize).mpr (inside.2 i isDrawn)
    exact ⟨buffer, ran⟩

/-- The noise stays in its buffer unless a result of `rand` is among those
that draw the place behind the end, whatever the results are. -/
theorem staysInside_iff (rand : Nat → Fin (RAND_MAX + 1)) (bufSize : Nat) :
    StaysInside rand bufSize ↔ Inside rand bufSize := by
  constructor
  · intro stays
    have fits : bufSize < 2147483647 := by
      by_contra tooLarge
      obtain ⟨idx, isDrawn, _⟩ :=
        stays.places 0 (by rw [draws]; omega)
      rw [randInRange, if_pos (by omega)] at isDrawn
      cases isDrawn
    obtain ⟨buffer, ran, _⟩ := stays.samples
    exact (genWhiteNoise_ok_iff fits).mp ⟨buffer, ran⟩
  · intro inside
    obtain ⟨fits, small⟩ := inside
    have places : ∀ i, i < draws bufSize →
        place (rand i) bufSize < bufSize := by
      intro i isDrawn
      exact (place_lt_iff (rand i) bufSize).mpr (small i isDrawn)
    refine ⟨?_, genWhiteNoise_noise fits places⟩
    intro i isDrawn
    exact ⟨_, randInRange_eq (rand i) fits, by omega,
      Int.ofNat_lt.mpr (places i isDrawn)⟩

/-- The largest result of `rand` draws the place behind a frame. -/
theorem staysInside_fails_last :
    ¬ StaysInside (fun _ => Fin.last 2147483647) 640 := by
  intro stays
  obtain ⟨buffer, ran, _⟩ := stays.samples
  have inside := (genWhiteNoise_ok_iff (by decide)).mp ⟨buffer, ran⟩
  exact absurd (inside.2 0 (by decide)) (by decide)

/-! ## In the mixer -/

/-- The mixer takes the places as they were drawn. -/
theorem genWhiteNoise_eq {rand : Nat → Fin (RAND_MAX + 1)} {bufSize : Nat}
    (fits : bufSize < 2147483647) {memory : MixerMemory}
    (drawn : ∀ i, memory.randInRange i = place (rand i) bufSize) :
    genWhiteNoise rand bufSize =
      AudioMixer.genWhiteNoise memory bufSize := by
  have sameTurn :
      noiseTurn rand bufSize = AudioMixer.noiseTurn memory.randInRange := by
    funext buffer i
    rw [noiseTurn_eq fits, AudioMixer.noiseTurn, drawn, drawn, store_natCast]
    apply bind_congr
    intro next
    rw [store_natCast]
  rw [genWhiteNoise, AudioMixer.genWhiteNoise, sameTurn]

/-- The only stream of a call is left out of its mix: there is a frame exactly
when the noise stays in the array. -/
theorem mixStreams_excluded_iff {rand : Nat → Fin (RAND_MAX + 1)}
    {sampleSize : Nat} (fits : sampleSize * 2 < 2147483647)
    {memory : MixerMemory}
    (drawn : ∀ i, memory.randInRange i = place (rand i) (sampleSize * 2))
    (rawData : Slot → Option AudioRawData) {excludeStreamId : UInt32}
    (excluded : excludeStreamId ≠ 0xffffffff) :
    (∃ frame, AudioMixer.mixStreams memory rawData sampleSize 1
      excludeStreamId = .ok frame) ↔ Inside rand (sampleSize * 2) := by
  rw [← genWhiteNoise_ok_iff fits, genWhiteNoise_eq fits drawn,
    AudioMixer.mixStreams, if_pos Nat.one_pos, if_pos (by omega),
    AudioMixer.mixCases, if_pos excluded]
  constructor
  · intro mixed
    obtain ⟨frame, ended⟩ := mixed
    obtain ⟨buffer, ran, _⟩ := bind_ok.mp ended
    exact ⟨buffer, ran⟩
  · intro ended
    obtain ⟨buffer, ran⟩ := ended
    exact ⟨_, bind_ok.mpr ⟨buffer, ran, rfl⟩⟩

end WhiteNoise

end GroupVoip
