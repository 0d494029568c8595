import GroupVoip.SampleStream

/-!
# The copies of a resampler

When a frame is cut from the start of the new samples, the rest is counted as
remaining, and nobody copies it.  The loop stays within its buffers, and reads
only samples that are there, as long as what it counts has been copied and few
samples are left behind such a frame.
-/

namespace GroupVoip

open Library.Buffers Library.Runs

variable {γ α : Type} {setting : ResamplerSetting}

/-- The arrays that the loop of `resample` copies from. -/
inductive CopySource where
  | resampleShortBufOut
  | resampleShortRemaining
deriving DecidableEq, Repr

/-- A `memcpy` of `count` sample frames into a block with room for `room`. -/
structure Memcpy where
  source : CopySource
  start : Nat
  count : Nat
  target : Nat
  room : Nat
deriving DecidableEq, Repr

namespace PushLoop

/-- The copies that a turn of the loop makes. -/
def memcpys (l : PushLoop γ α setting) : List Memcpy :=
  let r := l.resampler
  if r.remainingSampleCnt ≠ 0 then
    if r.remainingSampleCnt + l.sampleCount ≥ MP3_FRAME_SAMPLE_SIZE then
      [⟨.resampleShortRemaining, 0, r.remainingSampleCnt,
          0, MP3_FRAME_SAMPLE_SIZE⟩,
        ⟨.resampleShortBufOut, 0,
          MP3_FRAME_SAMPLE_SIZE - r.remainingSampleCnt,
          r.remainingSampleCnt, MP3_FRAME_SAMPLE_SIZE⟩]
    else
      [⟨.resampleShortBufOut, 0, l.sampleCount,
          r.remainingSampleCnt, setting.remainingSize⟩]
  else if l.sampleCount ≥ MP3_FRAME_SAMPLE_SIZE then
    [⟨.resampleShortBufOut, 0, MP3_FRAME_SAMPLE_SIZE,
        0, MP3_FRAME_SAMPLE_SIZE⟩]
  else
    [⟨.resampleShortBufOut, l.samplesToSkip, l.sampleCount,
        0, setting.remainingSize⟩]

end PushLoop

/-- The loop of a call, the number of samples that the call produced, and the
number of samples that stand in `resampleShortRemaining` because they were
copied there. -/
structure WatchedLoop (γ α : Type) (setting : ResamplerSetting) where
  loop : PushLoop γ α setting
  produced : Nat
  carried : Nat

namespace WatchedLoop

def remaining (w : WatchedLoop γ α setting) : Nat :=
  w.loop.resampler.remainingSampleCnt

def available (w : WatchedLoop γ α setting) : CopySource → Nat
  | .resampleShortBufOut => w.produced
  | .resampleShortRemaining => w.carried

/-- A turn starts with less than a frame remaining, so the difference to a
frame does not wrap, and its copies read what is there and fit where they
go. -/
structure InBounds (w : WatchedLoop γ α setting) : Prop where
  few : w.remaining < MP3_FRAME_SAMPLE_SIZE
  copies : ∀ copy, copy ∈ w.loop.memcpys →
    copy.start + copy.count ≤ w.available copy.source ∧
      copy.target + copy.count ≤ copy.room

/-- A frame uses up what was carried over.  Samples copied behind a gap do
not count. -/
def carriedAfter (w : WatchedLoop γ α setting) : Nat :=
  if w.remaining + w.loop.sampleCount ≥ MP3_FRAME_SAMPLE_SIZE then 0
  else if w.remaining ≤ w.carried then w.remaining + w.loop.sampleCount
  else w.carried

def turn (w : WatchedLoop γ α setting) :
    Except Abort (WatchedLoop γ α setting) := do
  let loop ← w.loop.turn
  return { w with loop := loop, carried := w.carriedAfter }

def turns : Nat → WatchedLoop γ α setting →
    Except Abort (WatchedLoop γ α setting)
  | 0, w => .ok w
  | more + 1, w =>
      if w.loop.sampleCount > 0 then do
        let next ← w.turn
        turns more next
      else .ok w

/-- Every turn is in bounds, and the loop ends because no samples are left. -/
def StaysInBounds : Nat → WatchedLoop γ α setting → Prop
  | 0, w => w.loop.sampleCount = 0
  | more + 1, w => 0 < w.loop.sampleCount →
      w.InBounds ∧ ∃ next, w.turn = .ok next ∧ StaysInBounds more next

theorem turns_loop (more : Nat) (w : WatchedLoop γ α setting) :
    (w.turns more).map loop = PushLoop.turns more w.loop := by
  induction more generalizing w with
  | zero => rfl
  | succ more inductionHypothesis =>
      unfold turns PushLoop.turns
      by_cases left : w.loop.sampleCount > 0
      · rw [if_pos left, if_pos left, turn]
        cases turned : w.loop.turn with
        | error stopped => rfl
        | ok next =>
            exact inductionHypothesis
              { w with loop := next, carried := w.carriedAfter }
      · rw [if_neg left, if_neg left]
        rfl

theorem staysInBounds_of_zero {w : WatchedLoop γ α setting} (more : Nat)
    (none : w.loop.sampleCount = 0) : w.StaysInBounds more := by
  cases more with
  | zero => exact none
  | succ more =>
      intro some
      omega

theorem staysInBounds_succ {w next : WatchedLoop γ α setting} (more : Nat)
    (some : 0 < w.loop.sampleCount) (turned : w.turn = .ok next) :
    w.StaysInBounds (more + 1) ↔ w.InBounds ∧ next.StaysInBounds more := by
  constructor
  · intro stays
    obtain ⟨inBounds, other, turnedToo, later⟩ := stays some
    cases turned.symm.trans turnedToo
    exact ⟨inBounds, later⟩
  · intro stays _
    exact ⟨stays.1, next, turned, stays.2⟩

/-! ## The turns -/

/-- The samples still to be copied are among those produced, what was carried
over is counted, and when nothing is left to copy less than a frame remains. -/
structure Sound (w : WatchedLoop γ α setting) : Prop where
  fits : w.produced ≤ setting.bufSize
  within : 0 < w.loop.sampleCount →
    w.loop.samplesToSkip + w.loop.sampleCount ≤ w.produced
  carried : w.carried ≤ w.remaining
  settled : w.loop.sampleCount = 0 → w.remaining < MP3_FRAME_SAMPLE_SIZE

theorem turn_keep {w : WatchedLoop γ α setting} (sound : w.Sound)
    (some : 0 < w.loop.sampleCount)
    (few : w.remaining + w.loop.sampleCount < MP3_FRAME_SAMPLE_SIZE) :
    w.InBounds ∧ ∃ next, w.turn = .ok next ∧ next.Sound ∧
      next.loop.sampleCount = 0 := by
  have fits := sound.fits
  have within := sound.within some
  have carried := sound.carried
  have size := setting.le_remainingSize
  constructor
  · refine ⟨by omega, ?_⟩
    intro copy member
    rw [remaining] at few
    simp only [PushLoop.memcpys, if_neg (Nat.not_le.mpr few),
      if_neg (show ¬ w.loop.sampleCount ≥ MP3_FRAME_SAMPLE_SIZE by omega)]
      at member
    split at member
    · cases List.mem_singleton.mp member
      simp only [available]
      omega
    · cases List.mem_singleton.mp member
      simp only [available]
      omega
  · obtain ⟨start, isStart⟩ : ∃ start, start =
        if w.loop.resampler.remainingSampleCnt ≠ 0 then 0
        else w.loop.samplesToSkip := ⟨_, rfl⟩
    have startWithin : start + w.loop.sampleCount ≤ setting.bufSize := by
      split at isStart <;> omega
    have read := Buffer.read_of_le (b := w.loop.resampler.resampleShortBufOut)
      startWithin
    have length_eq : ((w.loop.resampler.resampleShortBufOut.cells.drop
        start).take w.loop.sampleCount).length = w.loop.sampleCount := by
      rw [List.length_take, List.length_drop,
        w.loop.resampler.resampleShortBufOut.length_eq]
      omega
    rw [isStart] at read length_eq
    obtain ⟨loop, turned, none, _, fewAfter, kept⟩ :=
      PushLoop.turn_keep few read length_eq
    have counted : loop.resampler.remainingSampleCnt =
        w.remaining + w.loop.sampleCount := by
      rw [← AudioResampler.length_remaining fewAfter, kept,
        List.length_append, length_eq,
        AudioResampler.length_remaining (show _ < _ by
          rw [remaining] at few
          omega)]
      rfl
    refine ⟨_, bind_ok.mpr ⟨loop, turned, rfl⟩,
      ⟨fits, fun left => absurd none left.ne', ?_, fun _ => fewAfter⟩, none⟩
    have count : ({ w with loop := loop, carried := w.carriedAfter } :
        WatchedLoop γ α setting).remaining = _ := counted
    rw [count]
    simp only [carriedAfter, if_neg (Nat.not_le.mpr few)]
    split <;> omega

theorem inBounds_join {w : WatchedLoop γ α setting} (sound : w.Sound)
    (some : 0 < w.loop.sampleCount) (remain : 0 < w.remaining)
    (enough : MP3_FRAME_SAMPLE_SIZE ≤ w.remaining + w.loop.sampleCount) :
    w.InBounds ↔
      w.remaining < MP3_FRAME_SAMPLE_SIZE ∧ w.remaining ≤ w.carried := by
  have within := sound.within some
  have copies : w.loop.memcpys =
      [⟨.resampleShortRemaining, 0, w.remaining, 0, MP3_FRAME_SAMPLE_SIZE⟩,
        ⟨.resampleShortBufOut, 0, MP3_FRAME_SAMPLE_SIZE - w.remaining,
          w.remaining, MP3_FRAME_SAMPLE_SIZE⟩] := by
    rw [remaining] at remain enough
    simp only [PushLoop.memcpys, if_pos remain.ne', if_pos enough, remaining]
  constructor
  · intro inBounds
    refine ⟨inBounds.few, ?_⟩
    have member : (⟨.resampleShortRemaining, 0, w.remaining,
        0, MP3_FRAME_SAMPLE_SIZE⟩ : Memcpy) ∈ w.loop.memcpys := by
      rw [copies]
      exact List.mem_cons_self
    have source := (inBounds.copies _ member).1
    rwa [Nat.zero_add] at source
  · intro fits
    obtain ⟨few, isCarried⟩ := fits
    refine ⟨few, ?_⟩
    intro copy member
    rw [copies] at member
    rcases List.mem_pair.mp member with first | second
    · subst first
      simp only [available]
      omega
    · subst second
      simp only [available]
      omega

theorem turn_join {w : WatchedLoop γ α setting} (sound : w.Sound)
    (some : 0 < w.loop.sampleCount) (remain : 0 < w.remaining)
    (few : w.remaining < MP3_FRAME_SAMPLE_SIZE)
    (enough : MP3_FRAME_SAMPLE_SIZE ≤ w.remaining + w.loop.sampleCount) :
    ∃ next, w.turn = .ok next ∧ next.Sound ∧ next.remaining = 0 ∧
      next.loop.sampleCount =
        w.remaining + w.loop.sampleCount - MP3_FRAME_SAMPLE_SIZE := by
  have fits := sound.fits
  have within := sound.within some
  have value : MP3_FRAME_SAMPLE_SIZE = 1152 := rfl
  have room := setting.le_bufSize
  have inBuffer : 0 + (MP3_FRAME_SAMPLE_SIZE - w.remaining) ≤
      setting.bufSize := by omega
  have read := Buffer.read_of_le (b := w.loop.resampler.resampleShortBufOut)
    inBuffer
  have turned := PushLoop.turn_join remain few enough read
  refine ⟨_, bind_ok.mpr ⟨_, turned, rfl⟩,
    ⟨fits, fun _ => ?_, ?_, fun _ => ?_⟩, rfl, ?_⟩
  · rw [remaining] at few enough
    simp only
    omega
  · simp only [carriedAfter, if_pos (show _ ≥ _ from enough)]
    exact Nat.zero_le _
  · exact Nat.succ_pos 1151
  · rw [remaining] at few enough
    simp only [remaining]
    omega

/-- A frame cut from the start of the new samples leaves samples behind that
are counted twice and carried nowhere. -/
theorem turn_cut {w : WatchedLoop γ α setting} (sound : w.Sound)
    (none : w.remaining = 0)
    (enough : MP3_FRAME_SAMPLE_SIZE ≤ w.loop.sampleCount) :
    w.InBounds ∧ ∃ next, w.turn = .ok next ∧ next.Sound ∧
      next.remaining = w.loop.sampleCount - MP3_FRAME_SAMPLE_SIZE ∧
      next.loop.sampleCount = w.loop.sampleCount - MP3_FRAME_SAMPLE_SIZE ∧
      next.carried = 0 := by
  have fits := sound.fits
  have value : MP3_FRAME_SAMPLE_SIZE = 1152 := rfl
  have within := sound.within (by omega)
  constructor
  · refine ⟨by omega, ?_⟩
    intro copy member
    rw [remaining] at none
    simp only [PushLoop.memcpys, none, ne_eq, not_true, if_false,
      if_pos (show w.loop.sampleCount ≥ _ from enough)] at member
    cases List.mem_singleton.mp member
    simp only [available]
    omega
  · have inBuffer : 0 + MP3_FRAME_SAMPLE_SIZE ≤ setting.bufSize := by omega
    have read := Buffer.read_of_le (b := w.loop.resampler.resampleShortBufOut)
      inBuffer
    have turned := PushLoop.turn_cut none enough read
    have carried : w.carriedAfter = 0 := if_pos (by omega)
    refine ⟨_, bind_ok.mpr ⟨_, turned, rfl⟩,
      ⟨fits, fun _ => ?_, ?_, fun left => ?_⟩, rfl, rfl, carried⟩
    · simp only
      omega
    · rw [carried]
      exact Nat.zero_le _
    · exact lt_of_eq_of_lt left (Nat.succ_pos 1151)

/-! ## The loop of a call -/

theorem staysInBounds_keep {w : WatchedLoop γ α setting} {more : Nat}
    (sound : w.Sound)
    (few : w.remaining + w.loop.sampleCount < MP3_FRAME_SAMPLE_SIZE)
    (turnsLeft : 0 < more) : w.StaysInBounds more := by
  obtain ⟨fewer, isMore⟩ := Nat.exists_eq_succ_of_ne_zero turnsLeft.ne'
  rw [isMore]
  intro some
  obtain ⟨inBounds, next, turned, _, none⟩ := turn_keep sound some few
  exact ⟨inBounds, next, turned, staysInBounds_of_zero fewer none⟩

/-- From the start of the new samples the loop can cut one frame and keep
less than half a frame. -/
theorem staysInBounds_fresh {w : WatchedLoop γ α setting} {more : Nat}
    (sound : w.Sound) (none : w.remaining = 0)
    (turnsLeft : 2 * w.loop.sampleCount < more) :
    w.StaysInBounds more ↔
      2 * w.loop.sampleCount < 3 * MP3_FRAME_SAMPLE_SIZE := by
  have value : MP3_FRAME_SAMPLE_SIZE = 1152 := rfl
  by_cases few : w.loop.sampleCount < MP3_FRAME_SAMPLE_SIZE
  · exact iff_of_true (staysInBounds_keep sound (by omega) (by omega))
      (by omega)
  · obtain ⟨inBounds, next, turned, soundNext, remaining, count, carried⟩ :=
      turn_cut sound none (Nat.not_lt.mp few)
    obtain ⟨fewer, isMore⟩ : ∃ fewer, more = fewer + 1 :=
      ⟨more - 1, by omega⟩
    rw [isMore, staysInBounds_succ fewer (by omega) turned]
    by_cases nothingLeft : next.loop.sampleCount = 0
    · exact iff_of_true ⟨inBounds, staysInBounds_of_zero fewer nothingLeft⟩
        (by omega)
    · by_cases fewNext : next.remaining + next.loop.sampleCount <
          MP3_FRAME_SAMPLE_SIZE
      · exact iff_of_true
          ⟨inBounds, staysInBounds_keep soundNext fewNext (by omega)⟩
          (by omega)
      · have notInBounds : ¬ next.InBounds := by
          rw [inBounds_join soundNext (by omega) (by omega) (by omega)]
          omega
        refine iff_of_false ?_ (by omega)
        intro stays
        obtain ⟨evenFewer, isFewer⟩ : ∃ evenFewer, fewer = evenFewer + 1 :=
          ⟨fewer - 1, by omega⟩
        rw [isFewer] at stays
        exact notInBounds (stays.2 (Nat.pos_of_ne_zero nothingLeft)).1

/-- What a loop that stays in bounds leaves behind. -/
theorem turns_of_staysInBounds {more : Nat} :
    ∀ {w : WatchedLoop γ α setting}, w.Sound → w.StaysInBounds more →
      ∃ last, w.turns more = .ok last ∧ last.Sound ∧
        last.loop.sampleCount = 0 := by
  induction more with
  | zero =>
      intro w sound ended
      exact ⟨w, rfl, sound, ended⟩
  | succ more inductionHypothesis =>
      intro w sound stays
      unfold turns
      by_cases some : w.loop.sampleCount > 0
      · obtain ⟨inBounds, next, turned, later⟩ := stays some
        have soundNext : next.Sound := by
          by_cases few : w.remaining + w.loop.sampleCount <
              MP3_FRAME_SAMPLE_SIZE
          · obtain ⟨_, other, turnedToo, soundOther, _⟩ :=
              turn_keep sound some few
            cases turned.symm.trans turnedToo
            exact soundOther
          · by_cases none : w.remaining = 0
            · obtain ⟨_, other, turnedToo, soundOther, _⟩ :=
                turn_cut sound none (by omega)
              cases turned.symm.trans turnedToo
              exact soundOther
            · obtain ⟨other, turnedToo, soundOther, _⟩ :=
                turn_join sound some (Nat.pos_of_ne_zero none) inBounds.few
                  (Nat.not_lt.mp few)
              cases turned.symm.trans turnedToo
              exact soundOther
        rw [if_pos some, turned]
        exact inductionHypothesis soundNext later
      · rw [if_neg some]
        exact ⟨w, rfl, sound, by omega⟩

/-- The samples that are left once what remains from before has been made into
a frame. -/
def fresh (w : WatchedLoop γ α setting) : Nat :=
  if w.remaining = 0 then w.loop.sampleCount
  else w.remaining + w.loop.sampleCount - MP3_FRAME_SAMPLE_SIZE

/-- The samples fill no frame; or what remains has been copied, and from the
samples that are fresh at most one frame is cut, with less than half a frame
behind it. -/
def LeavesLittle (w : WatchedLoop γ α setting) : Prop :=
  w.remaining + w.loop.sampleCount < MP3_FRAME_SAMPLE_SIZE ∨
    (w.remaining ≤ w.carried ∧ 2 * w.fresh < 3 * MP3_FRAME_SAMPLE_SIZE)

instance (w : WatchedLoop γ α setting) : Decidable w.LeavesLittle :=
  inferInstanceAs (Decidable (_ ∨ _))

/-- A loop from the start of a call. -/
theorem staysInBounds_iff {w : WatchedLoop γ α setting} {more : Nat}
    (sound : w.Sound) (few : w.remaining < MP3_FRAME_SAMPLE_SIZE)
    (turnsLeft : 2 * w.loop.sampleCount < more) :
    w.StaysInBounds more ↔ w.LeavesLittle := by
  by_cases keeps : w.remaining + w.loop.sampleCount < MP3_FRAME_SAMPLE_SIZE
  · exact iff_of_true (staysInBounds_keep sound keeps (by omega))
      (Or.inl keeps)
  · rw [LeavesLittle, or_iff_right keeps, fresh]
    have carried := sound.carried
    by_cases none : w.remaining = 0
    · rw [if_pos none, staysInBounds_fresh sound none turnsLeft, none]
      exact (and_iff_right (Nat.zero_le _)).symm
    · rw [if_neg none]
      have remain : 0 < w.remaining := Nat.pos_of_ne_zero none
      have enough := Nat.not_lt.mp keeps
      have some : 0 < w.loop.sampleCount := by omega
      obtain ⟨next, turned, soundNext, noneNext, count⟩ :=
        turn_join sound some remain few enough
      obtain ⟨fewer, isMore⟩ : ∃ fewer, more = fewer + 1 :=
        ⟨more - 1, by omega⟩
      rw [isMore, staysInBounds_succ fewer some turned,
        inBounds_join sound some remain enough, and_iff_right few,
        staysInBounds_fresh soundNext noneNext (by omega), count]

end WatchedLoop

/-! ## Over a run -/

/-- A run of the resampler, and the number of samples that were carried over
by its last call. -/
structure WatchedResampler (γ α : Type) (setting : ResamplerSetting) where
  session : ResamplerSession γ α setting
  carried : Nat := 0

namespace WatchedResampler

/-- The loop of a call, before its first turn. -/
def loop (carried : Nat) (r : AudioResampler γ α setting)
    (sampleCount : Nat) : WatchedLoop γ α setting where
  loop := { resampler := r, sampleCount := sampleCount }
  produced := sampleCount
  carried := carried

def carriedAfter (src : Converter γ α) (w : WatchedResampler γ α setting) :
    ResamplerCall α → Nat
  | .resample inputData =>
      match w.session.resampler.convert src inputData with
      | .ok (some (r, sampleCount)) =>
          match (loop w.carried r sampleCount).turns (2 * sampleCount + 1) with
          | .ok last => last.carried
          | .error _ => 0
      | _ => w.carried
  | .getNextRawMp3Frame => w.carried

def start (resamplerState : γ)
    (resampleShortBufOut : Buffer α setting.bufSize)
    (resampleShortRemaining : Buffer α setting.remainingSize) :
    WatchedResampler γ α setting where
  session := ResamplerSession.start resamplerState resampleShortBufOut
    resampleShortRemaining

def step (src : Converter γ α) (w : WatchedResampler γ α setting)
    (call : ResamplerCall α) :
    Except Abort (WatchedResampler γ α setting) := do
  let session ← w.session.step src call
  return { session := session, carried := w.carriedAfter src call }

/-- The loop of a `resample` call is in bounds at every turn, and ends. -/
def InBounds (src : Converter γ α) (w : WatchedResampler γ α setting) :
    ResamplerCall α → Prop
  | .resample inputData =>
      ∀ r sampleCount,
        w.session.resampler.convert src inputData =
          .ok (some (r, sampleCount)) →
        (loop w.carried r sampleCount).StaysInBounds (2 * sampleCount + 1)
  | .getNextRawMp3Frame => True

/-- A `resample` call whose input fits the buffers has samples that the loop
can keep. -/
def LeavesLittle (src : Converter γ α) (w : WatchedResampler γ α setting) :
    ResamplerCall α → Prop
  | .resample inputData => inputData.length ≤ setting.bufSize →
      (loop w.carried w.session.resampler
        (w.session.resampler.converterOutput src inputData).length).LeavesLittle
  | .getNextRawMp3Frame => True

/-- Between two calls less than a frame remains. -/
structure Sound (w : WatchedResampler γ α setting) : Prop where
  few : w.session.resampler.remainingSampleCnt < MP3_FRAME_SAMPLE_SIZE
  carried : w.carried ≤ w.session.resampler.remainingSampleCnt

/-- What the conversion leaves for the loop. -/
theorem convert_ok {src : Converter γ α} {r r' : AudioResampler γ α setting}
    {inputData : List α} {sampleCount : Nat}
    (converted : r.convert src inputData = .ok (some (r', sampleCount))) :
    inputData.length ≤ setting.bufSize ∧
      sampleCount = (r.converterOutput src inputData).length ∧
      sampleCount ≤ setting.bufSize ∧
      r'.remainingSampleCnt = r.remainingSampleCnt := by
  by_cases fits : inputData.length ≤ setting.bufSize
  · rcases r.convert_of_fits src fits with
      ⟨failed, _⟩ | ⟨resamplerState, resampleShortBufOut, write, converts⟩
    · rw [failed] at converted
      cases converted
    · rw [converts] at converted
      cases converted
      have room := (Buffer.write_eq_some write).1
      exact ⟨fits, rfl, by omega, rfl⟩
  · unfold AudioResampler.convert at converted
    by_cases same : setting.inputFreq = setting.outputFreq
    · rw [if_pos same] at converted
      obtain ⟨written, write, _⟩ := bind_ok.mp converted
      cases write' : r.resampleShortBufOut.write 0 inputData with
      | none =>
          rw [write'] at write
          cases write
      | some other =>
          have room := (Buffer.write_eq_some write').1
          omega
    · rw [if_neg same, if_neg fits] at converted
      cases converted

theorem sound_loop {src : Converter γ α} {w : WatchedResampler γ α setting}
    {r : AudioResampler γ α setting} {inputData : List α} {sampleCount : Nat}
    (sound : w.Sound)
    (converted : w.session.resampler.convert src inputData =
      .ok (some (r, sampleCount))) :
    (loop w.carried r sampleCount).Sound ∧
      (loop w.carried r sampleCount).remaining < MP3_FRAME_SAMPLE_SIZE := by
  obtain ⟨_, _, room, same⟩ := convert_ok converted
  have few : (loop w.carried r sampleCount).remaining <
      MP3_FRAME_SAMPLE_SIZE := lt_of_eq_of_lt same sound.few
  refine ⟨⟨room, fun _ => (Nat.zero_add _).le, ?_, fun _ => few⟩, few⟩
  exact sound.carried.trans same.ge

theorem inBounds_iff {src : Converter γ α} {w : WatchedResampler γ α setting}
    (sound : w.Sound) (call : ResamplerCall α) :
    w.InBounds src call ↔ w.LeavesLittle src call := by
  cases call with
  | getNextRawMp3Frame => exact Iff.rfl
  | resample inputData =>
      have agree {r : AudioResampler γ α setting} {sampleCount : Nat}
          (converted : w.session.resampler.convert src inputData =
            .ok (some (r, sampleCount))) :
          (loop w.carried r sampleCount).StaysInBounds (2 * sampleCount + 1) ↔
            (loop w.carried w.session.resampler
              (w.session.resampler.converterOutput src
                inputData).length).LeavesLittle := by
        obtain ⟨soundLoop, few⟩ := sound_loop sound converted
        have turnsLeft : 2 * sampleCount < 2 * sampleCount + 1 :=
          Nat.lt_succ_self _
        refine (WatchedLoop.staysInBounds_iff soundLoop few turnsLeft).trans ?_
        obtain ⟨_, count, _, same⟩ := convert_ok converted
        rw [← count]
        simp only [WatchedLoop.LeavesLittle, WatchedLoop.fresh,
          WatchedLoop.remaining, loop, same]
        exact Iff.rfl
      constructor
      · intro inBounds fits
        rcases w.session.resampler.convert_of_fits src fits with
          ⟨_, nothing⟩ | ⟨resamplerState, resampleShortBufOut, _, converted⟩
        · left
          rw [nothing]
          exact sound.few
        · exact (agree converted).mp (inBounds _ _ converted)
      · intro little r sampleCount converted
        exact (agree converted).mpr (little (convert_ok converted).1)

theorem Sound.step {src : Converter γ α} {w next : WatchedResampler γ α setting}
    {call : ResamplerCall α} (sound : w.Sound) (inBounds : w.InBounds src call)
    (stepped : w.step src call = .ok next) : next.Sound := by
  obtain ⟨session, taken, rest⟩ := bind_ok.mp stepped
  cases rest
  cases call with
  | getNextRawMp3Frame =>
      have same : session.resampler.remainingSampleCnt =
          w.session.resampler.remainingSampleCnt := by
        cases taken
        dsimp only
        split <;> rfl
      exact ⟨same.trans_lt sound.few, sound.carried.trans same.ge⟩
  | resample inputData =>
      obtain ⟨⟨succeeded, resampler⟩, resampled, rest⟩ := bind_ok.mp taken
      cases rest
      obtain ⟨converted, converts, looped⟩ := bind_ok.mp resampled
      cases converted with
      | none =>
          cases looped
          have carried : w.carriedAfter src (.resample inputData) =
              w.carried := by
            simp only [carriedAfter, converts]
          exact ⟨sound.few, carried.trans_le sound.carried⟩
      | some converted =>
          obtain ⟨r, sampleCount⟩ := converted
          obtain ⟨l, pushed, rest⟩ := bind_ok.mp looped
          cases rest
          obtain ⟨soundLoop, few⟩ := sound_loop sound converts
          obtain ⟨last, turned, soundLast, ended⟩ :=
            WatchedLoop.turns_of_staysInBounds soundLoop
              (inBounds r sampleCount converts)
          have same : PushLoop.turns (2 * sampleCount + 1)
              { resampler := r, sampleCount := sampleCount } =
                .ok last.loop := by
            have seen := WatchedLoop.turns_loop (2 * sampleCount + 1)
              (loop w.carried r sampleCount)
            rw [turned] at seen
            exact seen.symm
          cases pushed.symm.trans same
          have carried : w.carriedAfter src (.resample inputData) =
              last.carried := by
            simp only [carriedAfter, converts, turned]
          exact ⟨soundLast.settled ended, carried.trans_le soundLast.carried⟩

theorem sound_start (resamplerState : γ)
    (resampleShortBufOut : Buffer α setting.bufSize)
    (resampleShortRemaining : Buffer α setting.remainingSize) :
    (start resamplerState resampleShortBufOut
      resampleShortRemaining).Sound :=
  ⟨Nat.succ_pos 1151, le_refl 0⟩

end WatchedResampler

/-- In a run of the resampler every turn of every loop is in bounds exactly
when every call leaves little enough behind. -/
theorem resampler_inBounds_iff (src : Converter γ α) (resamplerState : γ)
    (resampleShortBufOut : Buffer α setting.bufSize)
    (resampleShortRemaining : Buffer α setting.remainingSize)
    (calls : List (ResamplerCall α)) :
    EveryStep (WatchedResampler.step src) (WatchedResampler.InBounds src)
        (WatchedResampler.start resamplerState resampleShortBufOut
          resampleShortRemaining) calls ↔
      EveryStep (WatchedResampler.step src)
        (WatchedResampler.LeavesLittle src)
        (WatchedResampler.start resamplerState resampleShortBufOut
          resampleShortRemaining) calls := by
  apply everyStep_congr WatchedResampler.Sound
  · intro w call sound
    exact WatchedResampler.inBounds_iff sound call
  · intro w call next sound little stepped
    have inBounds := (WatchedResampler.inBounds_iff sound call).mpr little
    exact sound.step inBounds stepped
  · exact WatchedResampler.sound_start _ _ _

/-- Of 2305 samples in one block 1153 are left behind the first frame, more
than the next frame has room for. -/
theorem resampler_outOfBounds_largeBlock :
    ¬ EveryStep (WatchedResampler.step unusedConverter)
      (WatchedResampler.InBounds unusedConverter)
      { session := monoStart } [.resample (List.range 2305)] := by
  intro everywhere
  have sound : WatchedResampler.Sound { session := monoStart } :=
    WatchedResampler.sound_start _ _ _
  have little := (WatchedResampler.inBounds_iff sound _).mp everywhere.1
    (by rw [List.length_range]; decide)
  revert little
  decide +kernel

end GroupVoip
