import GroupVoip.AudioMixer
import GroupVoip.Library.Loops
import GroupVoip.SegmentFormat
import Mathlib.Algebra.BigOperators.Fin

/-!
# Saturated mixing

Every sample of a mix is the sum of the streams' samples, clipped to sixteen
bits.  The unrolled loops agree with that up to three streams, and so does the
case of four streams with one of them left out.  The index array for four
streams is too short, and from five streams on nothing is mixed.
-/

namespace GroupVoip

open Library.Buffers Library.Loops Library.Runs Library.WireBytes

/-! ## The mix as a sum -/

/-- A number clipped to the range of a `short`. -/
def saturate (x : Int) : Int :=
  max (-32768) (min 32767 x)

/-- The sample that a stream has for sample `i` of the stereo frame. -/
def AudioRawData.contribution (s : AudioRawData) (i : Nat) : Int :=
  (s.samples.getD (if s.bIsStereo then i else i / 2) 0).toInt

/-- A stream holds so many samples of every channel. -/
def AudioRawData.Holds (s : AudioRawData) (sampleSize : Nat) : Prop :=
  s.rawAudioFrame.length = sampleSize * if s.bIsStereo then 4 else 2

namespace AudioMixer

def isValid (rawData : Slot → Option AudioRawData) (j : Slot) : Bool :=
  match rawData j with
  | some s => s.bIsValid
  | none => false

/-- The sum over the valid streams that are not excluded. -/
def mixedSum (rawData : Slot → Option AudioRawData)
    (excludeStreamId : UInt32) (i : Nat) : Int :=
  ∑ j : Slot with isMixed rawData excludeStreamId j = true,
    match rawData j with
    | some s => s.contribution i
    | none => 0

/-- Valid streams of one length, and their number; a stream that is excluded
is one of several. -/
structure Mixable (rawData : Slot → Option AudioRawData)
    (sampleSize totalStreams : Nat) (excludeStreamId : UInt32) : Prop where
  holds : ∀ j s, rawData j = some s → s.bIsValid = true → s.Holds sampleSize
  total : totalStreams = Streams.slots.countP (isValid rawData)
  positive : 0 < totalStreams
  exclusion : excludeStreamId = 0xffffffff ∨
    ∃ j k : Slot, isValid rawData j = true ∧ isValid rawData k = true ∧
      k ≠ j ∧ excludeStreamId = UInt32.ofNat j.val

/-- The stereo frame with the clipped sums, whatever the memory holds. -/
def MixesSaturated (rawData : Slot → Option AudioRawData)
    (sampleSize totalStreams : Nat) (excludeStreamId : UInt32) : Prop :=
  ∀ memory, ∃ result,
    mixStreams memory rawData sampleSize totalStreams excludeStreamId =
      .ok (some result) ∧
    result.length = sampleSize * 4 ∧
    (asShorts result).map Int16.toInt =
      (List.range (sampleSize * 2)).map fun i =>
        saturate (mixedSum rawData excludeStreamId i)

end AudioMixer

/-! ## Samples -/

theorem asShorts_ofShorts (samples : List Int16) :
    asShorts (ofShorts samples) = samples := by
  induction samples with
  | nil => rfl
  | cons sample rest inductionHypothesis =>
      have whole : ofLE (toLE 2 sample.toUInt16.toNat) =
          sample.toUInt16.toNat :=
        ofLE_toLE_of_lt sample.toUInt16.toNat_lt
      change (UInt16.ofNat (ofLE (toLE 2 sample.toUInt16.toNat))).toInt16 ::
        asShorts (ofShorts rest) = _
      rw [whole, inductionHypothesis, UInt16.ofNat_toNat,
        Int16.toInt16_toUInt16]

theorem length_ofShorts (samples : List Int16) :
    (ofShorts samples).length = samples.length * 2 := by
  induction samples with
  | nil => rfl
  | cons sample rest inductionHypothesis =>
      rw [ofShorts, List.flatMap_cons, List.length_append, length_toLE,
        ← ofShorts, inductionHypothesis, List.length_cons]
      omega

theorem length_asShorts (bytes : Bytes) :
    (asShorts bytes).length = bytes.length / 2 := by
  induction bytes using asShorts.induct with
  | case1 low high rest inductionHypothesis =>
      rw [asShorts, List.length_cons, inductionHypothesis, List.length_cons,
        List.length_cons]
      omega
  | case2 bytes short =>
      rw [asShorts]
      · cases bytes with
        | nil => rfl
        | cons low rest =>
            cases rest with
            | nil => simp
            | cons high rest => exact absurd rfl (short low high rest)
      · exact short

namespace AudioRawData

variable {s : AudioRawData} {sampleSize i : Nat}

theorem Holds.length (holds : s.Holds sampleSize) :
    s.samples.length = sampleSize * if s.bIsStereo then 2 else 1 := by
  rw [samples, length_asShorts, holds]
  cases s.bIsStereo with
  | false => simp
  | true =>
      simp only [if_true]
      omega

theorem Holds.inside (holds : s.Holds sampleSize)
    (before : i < sampleSize * 2) :
    (if s.bIsStereo then i else i / 2) < s.samples.length := by
  rw [holds.length]
  cases s.bIsStereo with
  | false =>
      simp only [Bool.false_eq_true, if_false]
      omega
  | true => simpa using before

theorem Holds.sampleAt_eq (holds : s.Holds sampleSize)
    (before : i < sampleSize * 2) : s.sampleAt i = .ok (s.contribution i) := by
  have inside := holds.inside before
  rw [sampleAt, contribution, List.getElem?_eq_getElem inside,
    List.getD_eq_getElem _ _ inside]
  rfl

theorem contribution_bounds (s : AudioRawData) (i : Nat) :
    -32768 ≤ s.contribution i ∧ s.contribution i ≤ 32767 := by
  have lower := Int16.le_toInt
    (s.samples.getD (if s.bIsStereo then i else i / 2) 0)
  have upper := Int16.toInt_lt
    (s.samples.getD (if s.bIsStereo then i else i / 2) 0)
  rw [contribution]
  omega

end AudioRawData

/-! ## Clipping -/

theorem CLIP_eq (val : Int) : CLIP val 32767 (-32768) = saturate val := by
  rw [CLIP, saturate]
  omega

theorem toInt_saturate (x : Int) :
    (Int16.ofInt (saturate x)).toInt = saturate x := by
  apply Int16.toInt_ofInt_of_le
  · rw [saturate]
    omega
  · rw [saturate]
    omega

/-- A single stream is not changed by clipping. -/
theorem saturate_contribution (s : AudioRawData) (i : Nat) :
    saturate (s.contribution i) = s.contribution i := by
  have bounds := s.contribution_bounds i
  rw [saturate]
  omega

/-! ## The loops -/

namespace AudioMixer

variable {rawData : Slot → Option AudioRawData} {sampleSize : Nat}

/-- The samples of a buffer are clipped values of `f`, from sample `m` on. -/
def SaturatedFrom (f : Nat → Int) {n : Nat} (m : Nat)
    (valShort : Buffer Int16 n) : Prop :=
  valShort.cells.drop m =
    ((List.range n).map fun i => Int16.ofInt (saturate (f i))).drop m

theorem saturatedFrom_end (f : Nat → Int) {n : Nat}
    (valShort : Buffer Int16 n) : SaturatedFrom f n valShort := by
  rw [SaturatedFrom, List.drop_of_length_le (Nat.le_of_eq valShort.length_eq),
    List.drop_of_length_le (by simp)]

theorem SaturatedFrom.cells {f : Nat → Int} {n : Nat}
    {valShort : Buffer Int16 n} (saturated : SaturatedFrom f 0 valShort) :
    valShort.cells =
      (List.range n).map fun i => Int16.ofInt (saturate (f i)) :=
  saturated

/-- Writing the clipped value of sample `m` goes one sample down. -/
theorem SaturatedFrom.write {f : Nat → Int} {m n : Nat}
    {valShort next : Buffer Int16 n}
    (saturated : SaturatedFrom f (m + 1) valShort) (before : m < n)
    (written : valShort.write m [Int16.ofInt (saturate (f m))] = some next) :
    SaturatedFrom f m next := by
  have inside : m < ((List.range n).map fun i =>
      Int16.ofInt (saturate (f i))).length := by
    simpa using before
  rw [SaturatedFrom, Buffer.drop_write written, List.length_singleton,
    saturated, List.drop_eq_getElem_cons inside]
  simp

theorem run_addSample {i : Nat} (before : i < sampleSize * 2) :
    ∀ (streams : List AudioRawData) (val : Int),
      (∀ s, s ∈ streams → s.Holds sampleSize) →
      run (addSample i) val streams =
        .ok (val + (streams.map fun s => s.contribution i).sum) := by
  intro streams
  induction streams with
  | nil =>
      intro val _
      rw [run_nil, List.map_nil, List.sum_nil, Int.add_zero]
  | cons s rest inductionHypothesis =>
      intro val holds
      have first : addSample i val s = .ok (val + s.contribution i) := by
        rw [addSample, (holds s List.mem_cons_self).sampleAt_eq before]
        rfl
      rw [List.map_cons, List.sum_cons, ← Int.add_assoc]
      exact run_cons_ok.mpr ⟨_, first, inductionHypothesis _
        (fun t member => holds t (List.mem_cons_of_mem _ member))⟩

theorem mixTurn_ok {streams : List AudioRawData}
    (holds : ∀ s, s ∈ streams → s.Holds sampleSize) {m : Nat}
    {valShort : Buffer Int16 (sampleSize * 2)} (before : m < sampleSize * 2)
    (saturated : SaturatedFrom
      (fun i => (streams.map fun s => s.contribution i).sum) (m + 1)
      valShort) :
    ∃ next, mixTurn streams valShort m = .ok next ∧ SaturatedFrom
      (fun i => (streams.map fun s => s.contribution i).sum) m next := by
  have added := run_addSample before streams 0 holds
  rw [Int.zero_add] at added
  obtain ⟨next, written⟩ := valShort.exists_write m
    [Int16.ofInt (saturate (streams.map fun s => s.contribution m).sum)]
    before
  refine ⟨next, ?_, saturated.write before written⟩
  rw [mixTurn, added]
  change inBounds (valShort.write m [Int16.ofInt (CLIP _ 32767 (-32768))]) = _
  rw [CLIP_eq, written]
  rfl

theorem run_mixTurn {streams : List AudioRawData}
    (holds : ∀ s, s ∈ streams → s.Holds sampleSize)
    (valShort : Buffer Int16 (sampleSize * 2)) :
    ∃ mixed, run (mixTurn streams) valShort
        (List.range (sampleSize * 2)).reverse = .ok mixed ∧
      SaturatedFrom (fun i => (streams.map fun s => s.contribution i).sum) 0
        mixed :=
  run_downward (SaturatedFrom _)
    (fun _ _ before saturated => mixTurn_ok holds before saturated)
    (sampleSize * 2) valShort (Nat.le_refl _) (saturatedFrom_end _ _)

theorem monoTurn_ok {s : AudioRawData} (holds : s.Holds sampleSize)
    (mono : s.bIsStereo = false) {m : Nat}
    {valShort : Buffer Int16 (sampleSize * 2)} (before : m < sampleSize)
    (saturated : SaturatedFrom s.contribution ((m + 1) * 2) valShort) :
    ∃ next, monoTurn s.samples (valShort, (m + 1) * 2) m =
        .ok (next, m * 2) ∧
      SaturatedFrom s.contribution (m * 2) next := by
  have inside : m < s.samples.length := by
    rw [holds.length, mono]
    simpa using before
  have value : ∀ i, i / 2 = m →
      s.samples[m] = Int16.ofInt (saturate (s.contribution i)) := by
    intro i half
    rw [saturate_contribution, AudioRawData.contribution, mono,
      Int16.ofInt_toInt]
    simp [half, inside]
  obtain ⟨right, wroteRight⟩ := valShort.exists_write (m * 2 + 1)
    [s.samples[m]] (by simp only [List.length_singleton]; omega)
  obtain ⟨left, wroteLeft⟩ := right.exists_write (m * 2)
    [s.samples[m]] (by simp only [List.length_singleton]; omega)
  have double : (m + 1) * 2 = m * 2 + 1 + 1 := by omega
  rw [double] at saturated ⊢
  refine ⟨left, ?_, ?_⟩
  · rw [monoTurn, List.getElem?_eq_getElem inside]
    change (inBounds (valShort.write (m * 2 + 1) [s.samples[m]])).bind _ = _
    rw [wroteRight]
    change (inBounds (right.write (m * 2) [s.samples[m]])).bind _ = _
    rw [wroteLeft]
    rfl
  · rw [value (m * 2 + 1) (by omega)] at wroteRight
    rw [value (m * 2) (by omega)] at wroteLeft
    have afterRight : SaturatedFrom s.contribution (m * 2 + 1) right :=
      saturated.write (by omega) wroteRight
    exact afterRight.write (by omega) wroteLeft

/-- The loop over a mono stream writes every sample twice. -/
theorem run_monoTurn {s : AudioRawData} (holds : s.Holds sampleSize)
    (mono : s.bIsStereo = false) (valShort : Buffer Int16 (sampleSize * 2)) :
    ∃ mixed, run (monoTurn s.samples) (valShort, sampleSize * 2)
        (List.range sampleSize).reverse = .ok mixed ∧
      SaturatedFrom s.contribution 0 mixed.1 := by
  obtain ⟨mixed, looped, _, saturated⟩ := run_downward
    (fun m (l : Buffer Int16 (sampleSize * 2) × Nat) =>
      l.2 = m * 2 ∧ SaturatedFrom s.contribution (m * 2) l.1)
    (fun m l before inv => by
      obtain ⟨valShort, position⟩ := l
      obtain ⟨isPosition, saturated⟩ := inv
      cases isPosition
      obtain ⟨next, stepped, nextSaturated⟩ :=
        monoTurn_ok holds mono before saturated
      exact ⟨_, stepped, rfl, nextSaturated⟩)
    sampleSize (valShort, sampleSize * 2) (Nat.le_refl _)
    ⟨rfl, saturatedFrom_end _ _⟩
  exact ⟨mixed, looped, by simpa using saturated⟩

theorem element_eq {s : AudioRawData} {j : Slot}
    (isStream : rawData j = some s) : element rawData j.val = .ok s := by
  have below : j.val < 32 := j.isLt
  have inside : (0 : Int) ≤ j.val ∧ (j.val : Int) < MAX_XCODING_INSTANCES :=
    ⟨Int.natCast_nonneg _, Int.ofNat_lt.mpr below⟩
  have same : Slot.ofNat (j.val : Int).toNat = j :=
    Fin.ext (Nat.mod_eq_of_lt below)
  rw [element, if_pos inside, same, isStream]
  rfl

/-- The samples of a stereo stream are its contributions. -/
theorem samples_eq {s : AudioRawData} (holds : s.Holds sampleSize)
    (stereo : s.bIsStereo = true) :
    s.samples = (List.range (sampleSize * 2)).map fun i =>
      Int16.ofInt (saturate (s.contribution i)) := by
  have length := holds.length
  rw [stereo] at length
  apply List.ext_getElem
  · simpa using length
  · intro i inside _
    rw [List.getElem_map, List.getElem_range, saturate_contribution,
      AudioRawData.contribution, stereo, Int16.ofInt_toInt]
    simp [inside]

/-- A stream by itself is copied. -/
theorem mixOneStreams_ok {s : AudioRawData} (holds : s.Holds sampleSize)
    {j : Slot} (isStream : rawData j = some s)
    (valShort : Buffer Int16 (sampleSize * 2)) :
    ∃ mixed, mixOneStreams rawData j.val valShort sampleSize = .ok mixed ∧
      SaturatedFrom s.contribution 0 mixed := by
  rw [mixOneStreams, element_eq isStream]
  cases channels : s.bIsStereo with
  | false =>
      obtain ⟨mixed, looped, saturated⟩ := run_monoTurn holds channels valShort
      refine ⟨mixed.1, ?_, saturated⟩
      change (if s.bIsStereo = true then _ else _) = _
      rw [channels, if_neg Bool.false_ne_true, looped]
      rfl
  | true =>
      have length := holds.length
      rw [channels, if_pos rfl] at length
      have whole : s.samples.take (sampleSize * 2) = s.samples :=
        List.take_of_length_le (Nat.le_of_eq length)
      obtain ⟨mixed, written⟩ := valShort.exists_write 0 s.samples
        (by omega)
      refine ⟨mixed, ?_, ?_⟩
      · change (if s.bIsStereo = true then _ else _) = _
        rw [channels, if_pos rfl, if_pos (Nat.le_of_eq length.symm), whole,
          written]
        rfl
      · have copied := Buffer.drop_write written
        have nothing : valShort.cells.drop (0 + s.samples.length) = [] := by
          apply List.drop_of_length_le
          rw [valShort.length_eq]
          omega
        rw [nothing, List.append_nil, samples_eq holds channels] at copied
        exact copied

/-! ## Finding the streams -/

def mixedSlots (rawData : Slot → Option AudioRawData)
    (excludeStreamId : UInt32) : List Slot :=
  Streams.slots.filter (isMixed rawData excludeStreamId)

section Find

variable {excludeStreamId : UInt32} {n : Nat}

theorem run_findTurn :
    ∀ (slots : List Slot) (k : Nat) (indexArr : Buffer Int n),
      k + (slots.filter (isMixed rawData excludeStreamId)).length ≤ n →
      ∃ l, run (findTurn rawData excludeStreamId) (k, indexArr) slots = .ok l ∧
        l.2.cells.take
            (k + (slots.filter (isMixed rawData excludeStreamId)).length) =
          indexArr.cells.take k ++
            (slots.filter (isMixed rawData excludeStreamId)).map
              fun j => (j.val : Int) := by
  intro slots
  induction slots with
  | nil =>
      intro k indexArr _
      exact ⟨(k, indexArr), rfl, by simp⟩
  | cons j rest inductionHypothesis =>
      intro k indexArr fits
      by_cases mixed : isMixed rawData excludeStreamId j = true
      · rw [List.filter_cons_of_pos mixed] at fits ⊢
        rw [List.length_cons] at fits ⊢
        obtain ⟨next, written⟩ := indexArr.exists_write k [(j.val : Int)]
          (by simp only [List.length_singleton]; omega)
        have stepped : findTurn rawData excludeStreamId (k, indexArr) j =
            .ok (k + 1, next) := by
          rw [findTurn, if_pos mixed, written]
          rfl
        obtain ⟨l, looped, found⟩ :=
          inductionHypothesis (k + 1) next (by omega)
        refine ⟨l, run_cons_ok.mpr ⟨_, stepped, looped⟩, ?_⟩
        have front := Buffer.take_write written
        rw [List.length_singleton] at front
        rw [front, List.append_assoc, Nat.add_assoc, Nat.add_comm 1] at found
        exact found
      · rw [List.filter_cons_of_neg mixed] at fits ⊢
        have stepped : findTurn rawData excludeStreamId (k, indexArr) j =
            .ok (k, indexArr) := by
          rw [findTurn, if_neg mixed]
        obtain ⟨l, looped, found⟩ := inductionHypothesis k indexArr fits
        exact ⟨l, run_cons_ok.mpr ⟨_, stepped, looped⟩, found⟩

/-- The index array holds exactly the streams if it has their number. -/
theorem findIndexes_ok (indexArr : Buffer Int n)
    (asMany : (mixedSlots rawData excludeStreamId).length = n) :
    findIndexes rawData excludeStreamId indexArr =
      .ok ((mixedSlots rawData excludeStreamId).map
        fun j => (j.val : Int)) := by
  obtain ⟨l, looped, found⟩ := run_findTurn Streams.slots 0 indexArr
    (by rw [Nat.zero_add]; exact Nat.le_of_eq asMany)
  rw [findIndexes, looped]
  change Except.ok l.2.cells = _
  rw [List.take_zero, List.nil_append, Nat.zero_add, ← mixedSlots,
    List.take_of_length_le (by rw [l.2.length_eq, asMany])] at found
  rw [found]

/-- An array that is too short is left at its end. -/
theorem run_findTurn_overflow :
    ∀ (slots : List Slot) (k : Nat) (indexArr : Buffer Int n),
      n < k + (slots.filter (isMixed rawData excludeStreamId)).length →
      k ≤ n →
      run (findTurn rawData excludeStreamId) (k, indexArr) slots =
        .error .undefinedBehaviour := by
  intro slots
  induction slots with
  | nil =>
      intro k indexArr many within
      exact absurd many (by simpa using within)
  | cons j rest inductionHypothesis =>
      intro k indexArr many within
      by_cases mixed : isMixed rawData excludeStreamId j = true
      · rw [List.filter_cons_of_pos mixed, List.length_cons] at many
        by_cases room : k < n
        · obtain ⟨next, written⟩ := indexArr.exists_write k [(j.val : Int)]
            (by simp only [List.length_singleton]; omega)
          have continued :=
            inductionHypothesis (k + 1) next (by omega) (by omega)
          rw [run_cons, findTurn, if_pos mixed, written]
          exact continued
        · have full : indexArr.write k [(j.val : Int)] = none := by
            rw [Buffer.write, dif_neg (by
              simp only [List.length_singleton]
              omega)]
          rw [run_cons, findTurn, if_pos mixed, full]
          rfl
      · rw [List.filter_cons_of_neg mixed] at many
        rw [run_cons, findTurn, if_neg mixed]
        exact inductionHypothesis k indexArr many within

theorem findIndexes_overflow (indexArr : Buffer Int n)
    (many : n < (mixedSlots rawData excludeStreamId).length) :
    findIndexes rawData excludeStreamId indexArr =
      .error .undefinedBehaviour := by
  rw [findIndexes, run_findTurn_overflow Streams.slots 0 indexArr
    (by rw [Nat.zero_add]; exact many) (Nat.zero_le n)]
  rfl

theorem findFirst_eq {j : Slot}
    (only : mixedSlots rawData excludeStreamId = [j]) :
    findFirst rawData excludeStreamId = j.val := by
  have first : Streams.slots.find? (isMixed rawData excludeStreamId) =
      some j := by
    rw [← List.head?_filter, ← mixedSlots, only, List.head?_cons]
  rw [findFirst, first]

end Find

/-! ## The streams that are mixed -/

/-- The frames of the streams that are mixed. -/
def mixedStreams (rawData : Slot → Option AudioRawData)
    (excludeStreamId : UInt32) : List AudioRawData :=
  (mixedSlots rawData excludeStreamId).filterMap rawData

section Mixed

variable {excludeStreamId : UInt32} {totalStreams : Nat}

theorem exists_of_isMixed {j : Slot}
    (mixed : isMixed rawData excludeStreamId j = true) :
    ∃ s, rawData j = some s ∧ s.bIsValid = true := by
  cases isStream : rawData j with
  | none =>
      rw [isMixed, isStream] at mixed
      cases mixed
  | some s =>
      rw [isMixed, isStream] at mixed
      exact ⟨s, rfl, (Bool.and_eq_true_iff.mp mixed).1⟩

theorem mapM_element (slots : List Slot)
    (streams : ∀ j, j ∈ slots → ∃ s, rawData j = some s) :
    (slots.map fun j => (j.val : Int)).mapM (element rawData) =
      .ok (slots.filterMap rawData) := by
  induction slots with
  | nil => rfl
  | cons j rest inductionHypothesis =>
      obtain ⟨s, isStream⟩ := streams j List.mem_cons_self
      have others := inductionHypothesis
        fun k member => streams k (List.mem_cons_of_mem _ member)
      rw [List.map_cons, List.mapM_cons, element_eq isStream, others,
        List.filterMap_cons_some isStream]
      rfl

/-- Reading all entries of an index array. -/
theorem mapM_getElem? (indexArr : List Int) :
    (List.range indexArr.length).mapM (fun k => inBounds indexArr[k]?) =
      .ok indexArr := by
  have upTo : ∀ count, count ≤ indexArr.length →
      (List.range count).mapM (fun k => inBounds indexArr[k]?) =
        .ok (indexArr.take count) := by
    intro count
    induction count with
    | zero =>
        intro _
        rfl
    | succ count inductionHypothesis =>
        intro within
        rw [List.range_succ, List.mapM_append,
          inductionHypothesis (Nat.le_of_succ_le within), List.mapM_cons,
          List.getElem?_eq_getElem within,
          List.take_succ_eq_append_getElem within]
        rfl
  rw [upTo _ (Nat.le_refl _), List.take_length]

theorem mixIndexes_ok
    (holds : ∀ j s, rawData j = some s → s.bIsValid = true →
      s.Holds sampleSize)
    (valShort : Buffer Int16 (sampleSize * 2)) {count : Nat}
    (all : (mixedSlots rawData excludeStreamId).length = count) :
    ∃ mixed, mixIndexes count rawData
        ((mixedSlots rawData excludeStreamId).map fun j => (j.val : Int))
        valShort sampleSize = .ok mixed ∧
      SaturatedFrom (fun i => ((mixedStreams rawData excludeStreamId).map
        fun s => s.contribution i).sum) 0 mixed := by
  have isMixed_of_mem : ∀ j, j ∈ mixedSlots rawData excludeStreamId →
      isMixed rawData excludeStreamId j = true :=
    fun j member => (List.mem_filter.mp member).2
  have streams := mapM_element (mixedSlots rawData excludeStreamId)
    (fun j member => (exists_of_isMixed (isMixed_of_mem j member)).imp
      fun s isStream => isStream.1)
  have indexes := mapM_getElem?
    ((mixedSlots rawData excludeStreamId).map fun j => (j.val : Int))
  rw [List.length_map, all] at indexes
  have allHold : ∀ s, s ∈ mixedStreams rawData excludeStreamId →
      s.Holds sampleSize := by
    intro s member
    obtain ⟨j, isSlot, isStream⟩ := List.mem_filterMap.mp member
    obtain ⟨t, isSame, valid⟩ := exists_of_isMixed (isMixed_of_mem j isSlot)
    rw [isStream] at isSame
    cases isSame
    exact holds j s isStream valid
  obtain ⟨mixed, looped, saturated⟩ := run_mixTurn allHold valShort
  refine ⟨mixed, ?_, saturated⟩
  rw [mixIndexes, indexes]
  change (List.mapM (element rawData) _).bind _ = _
  rw [streams]
  exact looped

/-- The sum over the set is the sum of the streams in their order. -/
theorem mixedSum_eq (i : Nat) :
    mixedSum rawData excludeStreamId i =
      ((mixedStreams rawData excludeStreamId).map
        fun s => s.contribution i).sum := by
  have inOrder : ∀ slots : List Slot,
      (slots.map fun j =>
        if isMixed rawData excludeStreamId j = true then
          match rawData j with
          | some s => s.contribution i
          | none => 0
        else 0).sum =
      (((slots.filter (isMixed rawData excludeStreamId)).filterMap
        rawData).map fun s => s.contribution i).sum := by
    intro slots
    induction slots with
    | nil => rfl
    | cons j rest inductionHypothesis =>
        rw [List.map_cons, List.sum_cons, inductionHypothesis]
        by_cases mixed : isMixed rawData excludeStreamId j = true
        · obtain ⟨s, isStream, _⟩ := exists_of_isMixed mixed
          rw [if_pos mixed, List.filter_cons_of_pos mixed,
            List.filterMap_cons_some isStream, List.map_cons, List.sum_cons,
            isStream]
        · rw [if_neg mixed, List.filter_cons_of_neg mixed, Int.zero_add]
  rw [mixedSum, Finset.sum_filter, Fin.sum_univ_def]
  exact inOrder _

theorem ofNat_ne_none (j : Slot) : UInt32.ofNat j.val ≠ 0xffffffff := by
  have everySlot : ∀ i : Fin 32, UInt32.ofNat i.val ≠ 0xffffffff := by
    decide +kernel
  exact everySlot j

theorem isMixed_eq (j : Slot) :
    isMixed rawData excludeStreamId j =
      (isValid rawData j && UInt32.ofNat j.val ≠ excludeStreamId) := by
  rw [isMixed, isValid]
  cases rawData j with
  | none => rfl
  | some s => rfl

/-- All streams are mixed but the one that is excluded. -/
theorem Mixable.length_mixedSlots
    (mixable : Mixable rawData sampleSize totalStreams excludeStreamId) :
    (mixedSlots rawData excludeStreamId).length +
      (if excludeStreamId = 0xffffffff then 0 else 1) = totalStreams := by
  rw [mixable.total]
  rcases mixable.exclusion with nobody | ⟨j, k, valid, _, _, excluded⟩
  · have same : isMixed rawData excludeStreamId = isValid rawData := by
      funext j
      rw [isMixed_eq, nobody]
      simp [ofNat_ne_none j]
    rw [if_pos nobody, mixedSlots, same, List.countP_eq_length_filter,
      Nat.add_zero]
  · have others : mixedSlots rawData excludeStreamId =
        Streams.slots.filter fun i => i ≠ j && isValid rawData i := by
      apply List.filter_congr
      intro i _
      rw [isMixed_eq, excluded, Bool.and_comm,
        decide_eq_decide.mpr (not_congr ofNat_slot_inj)]
    have one := Streams.length_filter_ne valid
    rw [if_neg (by rw [excluded]; exact ofNat_ne_none j), others, one]

theorem Mixable.two_le
    (mixable : Mixable rawData sampleSize totalStreams excludeStreamId)
    (excluded : excludeStreamId ≠ 0xffffffff) : 2 ≤ totalStreams := by
  rw [mixable.total]
  rcases mixable.exclusion with nobody | ⟨j, k, valid, other, differs, _⟩
  · exact absurd nobody excluded
  · have member : k ∈ Streams.slots.filter fun i =>
        i ≠ j && isValid rawData i := by
      apply List.mem_filter.mpr
      exact ⟨List.mem_finRange k, by simp [differs, other]⟩
    have another := List.length_pos_of_mem member
    have one := Streams.length_filter_ne valid
    omega

end Mixed

/-! ## The cases -/

section Cases

variable {excludeStreamId : UInt32} {totalStreams : Nat}

/-- A case that returns the clipped sums returns the buffer of the mix. -/
theorem mixStreams_ok {memory : MixerMemory}
    (positive : 0 < totalStreams) (small : sampleSize * 2 < 0x80000000)
    {mixed : Buffer Int16 (sampleSize * 2)}
    (isCase : mixCases memory rawData sampleSize totalStreams excludeStreamId
      (Buffer.fresh memory.valShort (sampleSize * 2)) = .ok mixed) :
    mixStreams memory rawData sampleSize totalStreams excludeStreamId =
      .ok (some (ofShorts mixed.cells)) := by
  have total : (UInt32.ofNat sampleSize * 2 * 2).toNat =
      (ofShorts mixed.cells).length := by
    have two : (2 : UInt32).toNat = 2 := rfl
    rw [length_ofShorts, mixed.length_eq, UInt32.toNat_mul, UInt32.toNat_mul,
      UInt32.toNat_ofNat', two]
    omega
  rw [mixStreams, if_pos positive, if_pos small, isCase]
  change Except.ok (some ((ofShorts mixed.cells).take
    (UInt32.ofNat sampleSize * 2 * 2).toNat)) = _
  rw [total, List.take_length]

/-- What the cases of the `switch` have in common. -/
def MixesCase (rawData : Slot → Option AudioRawData)
    (sampleSize totalStreams : Nat) (excludeStreamId : UInt32) : Prop :=
  ∀ memory (valShort : Buffer Int16 (sampleSize * 2)), ∃ mixed,
    mixCases memory rawData sampleSize totalStreams excludeStreamId valShort =
      .ok mixed ∧
    SaturatedFrom (mixedSum rawData excludeStreamId) 0 mixed

theorem MixesCase.mixesSaturated
    (mixes : MixesCase rawData sampleSize totalStreams excludeStreamId)
    (positive : 0 < totalStreams) (small : sampleSize * 2 < 0x80000000) :
    MixesSaturated rawData sampleSize totalStreams excludeStreamId := by
  intro memory
  obtain ⟨mixed, isCase, saturated⟩ := mixes memory
    (Buffer.fresh memory.valShort (sampleSize * 2))
  refine ⟨_, mixStreams_ok positive small isCase, ?_, ?_⟩
  · rw [length_ofShorts, mixed.length_eq]
    omega
  · rw [asShorts_ofShorts, saturated.cells, List.map_map]
    apply List.map_congr_left
    intro i _
    exact toInt_saturate _

theorem mixedStreams_singleton {j : Slot} {s : AudioRawData}
    (only : mixedSlots rawData excludeStreamId = [j])
    (isStream : rawData j = some s) :
    mixedSum rawData excludeStreamId = s.contribution := by
  funext i
  rw [mixedSum_eq, mixedStreams, only, List.filterMap_cons_some isStream]
  simp

variable (mixable : Mixable rawData sampleSize totalStreams excludeStreamId)

include mixable

theorem Mixable.one_ok
    (one : (mixedSlots rawData excludeStreamId).length = 1)
    (valShort : Buffer Int16 (sampleSize * 2)) :
    ∃ mixed, mixOneStreams rawData (findFirst rawData excludeStreamId)
        valShort sampleSize = .ok mixed ∧
      SaturatedFrom (mixedSum rawData excludeStreamId) 0 mixed := by
  obtain ⟨j, only⟩ := List.length_eq_one_iff.mp one
  have member : j ∈ mixedSlots rawData excludeStreamId := by
    rw [only]
    exact List.mem_singleton_self j
  obtain ⟨s, isStream, valid⟩ :=
    exists_of_isMixed (List.mem_filter.mp member).2
  rw [findFirst_eq only, mixedStreams_singleton only isStream]
  exact mixOneStreams_ok (mixable.holds j s isStream valid) isStream valShort

theorem Mixable.several_ok {count : Nat}
    (all : (mixedSlots rawData excludeStreamId).length = count)
    (indexArr : Buffer Int count) (valShort : Buffer Int16 (sampleSize * 2)) :
    ∃ mixed, (findIndexes rawData excludeStreamId indexArr).bind
        (fun indexes => mixIndexes count rawData indexes valShort sampleSize) =
          .ok mixed ∧
      SaturatedFrom (mixedSum rawData excludeStreamId) 0 mixed := by
  have sum : mixedSum rawData excludeStreamId = fun i =>
      ((mixedStreams rawData excludeStreamId).map
        fun s => s.contribution i).sum :=
    funext mixedSum_eq
  rw [findIndexes_ok indexArr all, sum]
  exact mixIndexes_ok mixable.holds valShort all

/-- Up to three streams, and four with one of them left out. -/
theorem Mixable.mixesCase
    (few : totalStreams ≤ 3 ∨
      (totalStreams = 4 ∧ excludeStreamId ≠ 0xffffffff)) :
    MixesCase rawData sampleSize totalStreams excludeStreamId := by
  have length := mixable.length_mixedSlots
  have positive := mixable.positive
  intro memory valShort
  by_cases nobody : excludeStreamId = 0xffffffff
  · rw [if_pos nobody, Nat.add_zero] at length
    have cases : totalStreams = 1 ∨ totalStreams = 2 ∨ totalStreams = 3 := by
      rcases few with few | ⟨_, excluded⟩
      · omega
      · exact absurd nobody excluded
    rcases cases with one | two | three
    · rw [one, mixCases, if_neg (not_not.mpr nobody)]
      exact mixable.one_ok (length.trans one) valShort
    · rw [two, mixCases, if_neg (not_not.mpr nobody)]
      exact mixable.several_ok (length.trans two) _ valShort
    · rw [three, mixCases, if_neg (not_not.mpr nobody)]
      exact mixable.several_ok (length.trans three) _ valShort
  · rw [if_neg nobody] at length
    have least := mixable.two_le nobody
    have cases : totalStreams = 2 ∨ totalStreams = 3 ∨ totalStreams = 4 := by
      omega
    rcases cases with two | three | four
    · rw [two, mixCases, if_pos nobody]
      exact mixable.one_ok (by omega) valShort
    · rw [three, mixCases, if_pos nobody]
      exact mixable.several_ok (by omega) _ valShort
    · rw [four, mixCases, if_pos nobody]
      exact mixable.several_ok (by omega) _ valShort

/-! ## Where nothing is mixed -/

omit mixable in
theorem MixesSaturated.exists_ok
    (mixes :
      MixesSaturated rawData sampleSize totalStreams excludeStreamId) :
    ∃ memory result,
      mixStreams memory rawData sampleSize totalStreams excludeStreamId =
        .ok (some result) := by
  obtain ⟨result, mixed, _⟩ := mixes
    { valShort := fun _ => 0, indexArr := fun _ => 0,
      randInRange := fun _ => 0 }
  exact ⟨_, result, mixed⟩

omit mixable in
theorem mixCases_beyond (many : 5 ≤ totalStreams) (memory : MixerMemory)
    (valShort : Buffer Int16 (sampleSize * 2)) :
    mixCases memory rawData sampleSize totalStreams excludeStreamId valShort =
      .ok valShort := by
  obtain ⟨more, isMore⟩ := Nat.exists_eq_add_of_le many
  rw [isMore, Nat.add_comm]
  rfl

/-- The four indexes do not fit. -/
theorem Mixable.four_overflows (four : totalStreams = 4)
    (nobody : excludeStreamId = 0xffffffff) (memory : MixerMemory)
    (valShort : Buffer Int16 (sampleSize * 2)) :
    mixCases memory rawData sampleSize totalStreams excludeStreamId valShort =
      .error .undefinedBehaviour := by
  have length := mixable.length_mixedSlots
  rw [if_pos nobody] at length
  rw [four, mixCases, if_neg (not_not.mpr nobody),
    findIndexes_overflow _ (by omega)]
  rfl

omit mixable in
/-- What the memory held is returned, so it cannot be the mix. -/
theorem not_mixesSaturated_beyond (many : 5 ≤ totalStreams)
    (nonempty : 0 < sampleSize) (small : sampleSize * 2 < 0x80000000) :
    ¬ MixesSaturated rawData sampleSize totalStreams excludeStreamId := by
  intro mixes
  have held : ∀ x : Int16,
      x.toInt = saturate (mixedSum rawData excludeStreamId 0) := by
    intro x
    obtain ⟨result, mixed, _, samples⟩ := mixes
      { valShort := fun _ => x, indexArr := fun _ => 0,
        randInRange := fun _ => 0 }
    rw [mixStreams_ok (by omega) small (mixCases_beyond many _ _)] at mixed
    cases mixed
    rw [asShorts_ofShorts] at samples
    have first := congrArg (fun l => l[0]?) samples
    simpa [Buffer.fresh, nonempty] using first
  have zero := held 0
  rw [← held 1] at zero
  exact absurd zero (by decide)

/-- The mix is right exactly if the samples can be counted, and the streams
are at most three, or four with one left out, or have no samples. -/
theorem Mixable.mixesSaturated_iff :
    MixesSaturated rawData sampleSize totalStreams excludeStreamId ↔
      sampleSize * 2 < 2 ^ 31 ∧
        (totalStreams ≤ 3 ∨
          (totalStreams = 4 ∧ excludeStreamId ≠ 0xffffffff) ∨
          (5 ≤ totalStreams ∧ sampleSize = 0)) := by
  have positive := mixable.positive
  constructor
  · intro mixes
    obtain ⟨memory, result, mixed⟩ := mixes.exists_ok
    by_cases small : sampleSize * 2 < 0x80000000
    · refine ⟨small, ?_⟩
      by_cases few : totalStreams ≤ 3
      · exact .inl few
      · right
        by_cases four : totalStreams = 4
        · left
          refine ⟨four, ?_⟩
          intro nobody
          rw [mixStreams, if_pos positive, if_pos small,
            mixable.four_overflows four nobody] at mixed
          cases mixed
        · right
          refine ⟨by omega, ?_⟩
          by_contra nonzero
          exact not_mixesSaturated_beyond (by omega)
            (Nat.pos_of_ne_zero nonzero) small mixes
    · rw [mixStreams, if_pos positive, if_neg small] at mixed
      cases mixed
  · intro holds
    obtain ⟨small, few | four | ⟨many, nothing⟩⟩ := holds
    · exact (mixable.mixesCase (.inl few)).mixesSaturated positive small
    · exact (mixable.mixesCase (.inr four)).mixesSaturated positive small
    · have mixes :
          MixesCase rawData sampleSize totalStreams excludeStreamId := by
        intro memory valShort
        refine ⟨valShort, mixCases_beyond many memory valShort, ?_⟩
        cases nothing
        exact saturatedFrom_end _ valShort
      exact mixes.mixesSaturated positive small

end Cases

/-- So many mono streams of one loud sample. -/
def loudStreams (count : Nat) (j : Slot) : Option AudioRawData :=
  if j.val < count then
    some
      { rawAudioFrame := [0xff, 0x7f], bIsStereo := false, bIsValid := true,
        pts := 0 }
  else none

theorem loudStreams_holds {count : Nat} (j : Slot) (s : AudioRawData)
    (isStream : loudStreams count j = some s) : s.Holds 1 := by
  rw [loudStreams] at isStream
  split at isStream
  · cases isStream
    rfl
  · cases isStream

end AudioMixer

/-- `mixStreams` returns the clipped sums, and writes within its arrays,
exactly if the samples can be counted and the streams are at most three, or
four with one left out, or have no samples. -/
theorem mixStreams_saturated_iff {rawData : Slot → Option AudioRawData}
    {sampleSize totalStreams : Nat} {excludeStreamId : UInt32}
    (mixable :
      AudioMixer.Mixable rawData sampleSize totalStreams excludeStreamId) :
    AudioMixer.MixesSaturated rawData sampleSize totalStreams
        excludeStreamId ↔
      sampleSize * 2 < 2 ^ 31 ∧
        (totalStreams ≤ 3 ∨
          (totalStreams = 4 ∧ excludeStreamId ≠ 0xffffffff) ∨
          (5 ≤ totalStreams ∧ sampleSize = 0)) :=
  mixable.mixesSaturated_iff

/-- One of three streams is left out. -/
theorem mixStreams_saturated_three :
    AudioMixer.MixesSaturated (AudioMixer.loudStreams 3) 1 3 1 :=
  have mixable : AudioMixer.Mixable (AudioMixer.loudStreams 3) 1 3 1 :=
    { holds := fun j s isStream _ => AudioMixer.loudStreams_holds j s isStream
      total := by decide +kernel
      positive := by decide
      exclusion := .inr ⟨1, 0, by decide, by decide, by decide, by decide⟩ }
  (mixStreams_saturated_iff mixable).mpr ⟨by decide, .inl (by decide)⟩

/-- Four streams are written past the end of an array of two, and of five
streams nothing is mixed. -/
theorem mixStreams_unmixed_four_five :
    AudioMixer.Mixable (AudioMixer.loudStreams 4) 1 4 0xffffffff ∧
      AudioMixer.Mixable (AudioMixer.loudStreams 5) 1 5 0xffffffff ∧
      (∀ memory, AudioMixer.mixStreams memory (AudioMixer.loudStreams 4) 1 4
        0xffffffff = .error .undefinedBehaviour) ∧
      (∀ memory, AudioMixer.mixStreams memory (AudioMixer.loudStreams 5) 1 5
        0xffffffff =
          .ok (some (ofShorts [memory.valShort 0, memory.valShort 1]))) ∧
      ¬ AudioMixer.MixesSaturated (AudioMixer.loudStreams 4) 1 4 0xffffffff ∧
      ¬ AudioMixer.MixesSaturated (AudioMixer.loudStreams 5) 1 5
        0xffffffff := by
  have four : AudioMixer.Mixable (AudioMixer.loudStreams 4) 1 4 0xffffffff :=
    { holds := fun j s isStream _ => AudioMixer.loudStreams_holds j s isStream
      total := by decide +kernel
      positive := by decide
      exclusion := .inl rfl }
  have five : AudioMixer.Mixable (AudioMixer.loudStreams 5) 1 5 0xffffffff :=
    { holds := fun j s isStream _ => AudioMixer.loudStreams_holds j s isStream
      total := by decide +kernel
      positive := by decide
      exclusion := .inl rfl }
  have overflows : ∀ memory, AudioMixer.mixStreams memory
      (AudioMixer.loudStreams 4) 1 4 0xffffffff =
        .error .undefinedBehaviour := by
    intro memory
    rw [AudioMixer.mixStreams, if_pos (by decide), if_pos (by decide),
      four.four_overflows rfl rfl]
    rfl
  refine ⟨four, five, overflows, ?_, ?_, ?_⟩
  · intro memory
    exact AudioMixer.mixStreams_ok (by decide) (by decide)
      (AudioMixer.mixCases_beyond (by decide) memory _)
  · intro mixes
    obtain ⟨memory, result, mixed⟩ := mixes.exists_ok
    rw [overflows] at mixed
    cases mixed
  · exact AudioMixer.not_mixesSaturated_beyond (by decide) (by decide)
      (by decide)

end GroupVoip
