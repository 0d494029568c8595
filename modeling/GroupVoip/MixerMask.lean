import GroupVoip.IdTable
import GroupVoip.InputWire
import GroupVoip.StreamService

/-!
# The mask of the group

The header of an input message has the mask of the mixer ids in use, and the
array is made for as many records as the counter of the table says.  The
counter leaves out two streams that are not mixed.  Without karaoke there is
only one.
-/

namespace GroupVoip

open Library.BitCount Library.ClearBit Library.Runs Library.WireBytes

namespace IdLookup

def TOTAL_EXCLUDE_COUNT : Int := 2

/-- One turn of the loop, which goes down to bit 0. -/
def maskStep (t : IdLookup) (result : UInt32) (i : Nat) : UInt32 :=
  let result := if i ∈ t.mixerStreams then result ||| 1 else result
  if i > 0 then result <<< 1 else result

def getMixerMask (t : IdLookup) : UInt32 :=
  (List.range MAX_STREAM_COUNT).reverse.foldl t.maskStep 0

/-- `none` is the `-1` of a name that has no entry. -/
def lookupMixerIdAndMask (t : IdLookup) (streamName : JavaString) :
    Option MixerLookup :=
  match t.groupMappingTable.lookup streamName with
  | some entry => some {
      mixerId := UInt32.ofInt entry.mixerId
      mask := t.getMixerMask
      streams := t.totalInputStreams - TOTAL_EXCLUDE_COUNT }
  | none => none

/-- The header that a message of a stream gets fits the streams in use, and
its array is filled exactly. -/
def HeaderMatches (t : IdLookup) (streamName : JavaString) : Prop :=
  ∃ lookup, t.lookupMixerIdAndMask streamName = some lookup ∧
    lookup.streams = maskCount lookup.mask ∧
    (∀ i : Slot, Streams.maskBit lookup.mask i = true ↔
      ∃ name entry, t.entryOf name = some entry ∧ entry.mixerId = i.val) ∧
    ∀ input : InputObject, input.flvFrame.length < 2 ^ 31 →
      input.toByteBuffer lookup ≠ .error .bufferOverflow ∧
        ∀ flvSegment, input.toByteBuffer lookup = .ok flvSegment →
          flvSegment.written.length = flvSegment.capacity

/-! ## Calls for mixed streams -/

instance (name : JavaString) : Decidable (TakenForReserved name) :=
  inferInstanceAs (Decidable (_ ∨ _))

/-- The number of entries that are not reserved. -/
def mixedStreams (t : IdLookup) : Nat :=
  t.groupMappingTable.keys.countP fun name => ¬ TakenForReserved name

/-- A name that is not reserved; to create it, it must not be there, and one
more mixed stream must be allowed. -/
def Mixes (t : IdLookup) : IdCall → Prop
  | .createNewEntry name =>
      ¬ TakenForReserved name ∧ t.entryOf name = none ∧
        t.mixedStreams < MAX_STREAM_COUNT
  | .deleteEntry name => ¬ TakenForReserved name

instance (t : IdLookup) : ∀ call, Decidable (t.Mixes call)
  | .createNewEntry _ => inferInstanceAs (Decidable (_ ∧ _ ∧ _))
  | .deleteEntry _ => inferInstanceAs (Decidable (¬ _))

/-! ## The packing loop -/

theorem maskStep_zero (t : IdLookup) (result : UInt32) :
    t.maskStep result 0 = if 0 ∈ t.mixerStreams then result ||| 1 else result :=
  rfl

theorem maskStep_succ (t : IdLookup) (result : UInt32) (i : Nat) :
    t.maskStep result (i + 1) =
      (if i + 1 ∈ t.mixerStreams then result ||| 1 else result) <<< 1 :=
  rfl

/-- A number whose lowest bit is clear takes the bit of an id there. -/
theorem testBit_ite_or (t : IdLookup) {result : UInt32} (i : Nat)
    (clear : result.toNat.testBit 0 = false) (j : Nat) :
    (if i ∈ t.mixerStreams then result ||| 1 else result).toNat.testBit j =
      if j = 0 then decide (i ∈ t.mixerStreams)
      else result.toNat.testBit j := by
  have one : (1 : UInt32).toNat = 1 := rfl
  by_cases isSet : i ∈ t.mixerStreams
  · rw [if_pos isSet, UInt32.toNat_or, Nat.testBit_or, one]
    by_cases first : j = 0
    · simp [first, isSet]
    · have above : Nat.testBit 1 j = false := by
        rw [← Bool.not_eq_true, Nat.testBit_one_eq_true_iff_self_eq_zero]
        exact first
      rw [if_neg first, above, Bool.or_false]
  · rw [if_neg isSet]
    by_cases first : j = 0
    · simp [first, isSet, clear]
    · rw [if_neg first]

theorem testBit_shiftLeft_one (result : UInt32) {j : Nat} (inside : j < 32) :
    (result <<< 1).toNat.testBit j =
      if j = 0 then false else result.toNat.testBit (j - 1) := by
  have one : (1 : UInt32).toNat % 32 = 1 := rfl
  rw [UInt32.toNat_shiftLeft, one, Nat.testBit_mod_two_pow,
    Nat.testBit_shiftLeft]
  by_cases first : j = 0
  · simp [first]
  · have above : 1 ≤ j := Nat.one_le_iff_ne_zero.mpr first
    simp [first, above, inside]

/-- The loop from `n` down to 0 moves what is there up by `n` bits and puts the
bits of the ids below. -/
theorem testBit_maskLoop (t : IdLookup) (n : Nat) :
    ∀ result : UInt32, result.toNat.testBit 0 = false → ∀ j, j < 32 →
      ((List.range (n + 1)).reverse.foldl t.maskStep result).toNat.testBit j =
        if j ≤ n then decide (j ∈ t.mixerStreams)
        else result.toNat.testBit (j - n) := by
  induction n with
  | zero =>
      intro result clear j _
      change (t.maskStep result 0).toNat.testBit j = _
      rw [maskStep_zero, testBit_ite_or t 0 clear]
      by_cases first : j = 0
      · simp [first]
      · rw [if_neg first, if_neg (by omega), Nat.sub_zero]
  | succ n inductionHypothesis =>
      intro result clear j inside
      have shiftedClear :
          (t.maskStep result (n + 1)).toNat.testBit 0 = false := by
        rw [maskStep_succ, testBit_shiftLeft_one _ (by decide), if_pos rfl]
      rw [List.range_succ, List.reverse_append, List.reverse_singleton,
        List.singleton_append, List.foldl_cons,
        inductionHypothesis _ shiftedClear j inside]
      by_cases below : j ≤ n
      · rw [if_pos below, if_pos (by omega)]
      · rw [if_neg below, maskStep_succ,
          testBit_shiftLeft_one _ (by omega), if_neg (by omega),
          testBit_ite_or t (n + 1) clear]
        by_cases next : j = n + 1
        · rw [if_pos (by omega), if_pos (by omega), next]
        · rw [if_neg (by omega), if_neg (by omega), Nat.sub_sub]

/-- Bit `i` of the mask is set exactly if mixer id `i` is. -/
theorem maskBit_getMixerMask (t : IdLookup) (i : Slot) :
    Streams.maskBit t.getMixerMask i = decide (i.val ∈ t.mixerStreams) := by
  have inside : i.val < 32 := i.isLt
  have packed := testBit_maskLoop t 31 0 (by decide) i.val inside
  rw [if_pos (by omega)] at packed
  rw [Streams.maskBit_eq_testBit]
  exact packed

theorem maskCount_getMixerMask {t : IdLookup}
    (below : ∀ i, i ∈ t.mixerStreams → i < 32) :
    maskCount t.getMixerMask = t.mixerStreams.card := by
  have same : setBits 32 t.getMixerMask.toNat = t.mixerStreams := by
    ext i
    rw [mem_setBits]
    by_cases inside : i < 32
    · have isBit := maskBit_getMixerMask t ⟨i, inside⟩
      rw [Streams.maskBit_eq_testBit] at isBit
      change t.getMixerMask.toNat.testBit i = decide (i ∈ t.mixerStreams)
        at isBit
      rw [isBit]
      simp [inside]
    · simp only [inside, false_and, false_iff]
      exact fun isSet => inside (below i isSet)
  rw [maskCount_eq_card, same]

/-! ## The counter -/

/-- The table is regular, every mixed stream has its bit, and the counter
counts some streams besides. -/
structure Counts (t : IdLookup) (besides : Int) : Prop where
  regular : t.Regular .reserved
  mixed : t.mixedStreams = t.mixerStreams.card
  total : t.totalInputStreams = t.mixerStreams.card + besides

section Keys

variable {α : Type} {β : α → Type} [DecidableEq α] {table : AList β} {a : α}
  {p : α → Bool}

theorem countP_keys_insert (b : β a) (notThere : a ∉ table) :
    (table.insert a b).keys.countP p =
      table.keys.countP p + if p a then 1 else 0 := by
  have notKey : a ∉ table.keys :=
    fun isKey => notThere (AList.mem_keys.mpr isKey)
  rw [AList.keys_insert, List.erase_of_not_mem notKey, List.countP_cons]

theorem countP_keys_erase (isThere : a ∈ table) (counted : p a = true) :
    (table.erase a).keys.countP p + 1 = table.keys.countP p := by
  have isKey : a ∈ table.keys := AList.mem_keys.mp isThere
  have positive : 0 < table.keys.countP p :=
    List.countP_pos_iff.mpr ⟨a, isKey, counted⟩
  rw [AList.keys_erase, List.countP_erase, if_pos ⟨isKey, counted⟩]
  omega

end Keys

section Counter

variable {t after : IdLookup} {name : JavaString} {besides : Int}

theorem mixedStreams_create (created : t.Creates name after)
    (isNew : t.entryOf name = none) :
    after.mixedStreams =
      t.mixedStreams + if TakenForReserved name then 0 else 1 := by
  have notThere : name ∉ t.groupMappingTable := AList.lookup_eq_none.mp isNew
  rw [mixedStreams, created.table, countP_keys_insert _ notThere, mixedStreams]
  by_cases taken : TakenForReserved name
  · simp [taken]
  · simp [taken]

theorem mixedStreams_delete {entry : GroupMappingTableEntry}
    (deleted : t.Deletes name entry after)
    (isEntry : t.entryOf name = some entry)
    (notTaken : ¬ TakenForReserved name) :
    after.mixedStreams + 1 = t.mixedStreams := by
  have isThere := mem_of_entryOf isEntry
  rw [mixedStreams, deleted.table, mixedStreams]
  exact countP_keys_erase isThere (by simp [notTaken])

theorem Counts.create (counts : t.Counts besides)
    (created : t.Creates name after) (notTaken : ¬ TakenForReserved name)
    (isNew : t.entryOf name = none)
    (room : t.mixedStreams < MAX_STREAM_COUNT) : after.Counts besides where
  regular := by
    have few := lowestClear_le_card t.mixerStreams
    rw [counts.mixed] at room
    apply created.regular _ counts.regular
    exact {
      isNew := isNew
      isReserved := fun taken => taken
      apart := fun taken => absurd taken notTaken
      below := fun _ => Nat.lt_of_le_of_lt few room }
  mixed := by
    have isClear := lowestClear_not_mem t.mixerStreams
    rw [mixedStreams_create created isNew, if_neg notTaken, created.mixers,
      reserveMixerId_of_not_taken notTaken,
      Finset.card_insert_of_notMem isClear, counts.mixed]
  total := by
    have isClear := lowestClear_not_mem t.mixerStreams
    rw [created.total, created.mixers, reserveMixerId_of_not_taken notTaken,
      Finset.card_insert_of_notMem isClear, counts.total]
    omega

theorem Counts.delete (counts : t.Counts besides)
    (notTaken : ¬ TakenForReserved name) :
    (t.deleteEntry name).2.Counts besides := by
  cases known : t.entryOf name with
  | none =>
      rw [deleteEntry_of_none known]
      exact counts
  | some entry =>
      have deleted := counts.regular.deletes known
      have isSet := counts.regular.inStep.mixerId_mem known notTaken
      have one := Finset.card_erase_add_one isSet
      refine ⟨deleted.regular counts.regular known, ?_, ?_⟩
      · have fewer := mixedStreams_delete deleted known notTaken
        rw [counts.mixed] at fewer
        rw [deleted.mixers]
        omega
      · rw [deleted.total, deleted.mixers, counts.total]
        omega

theorem Counts.step (counts : t.Counts besides) {call : IdCall}
    (mixes : t.Mixes call) (stepped : t.step call = .ok after) :
    after.Counts besides := by
  cases call with
  | createNewEntry name =>
      cases stepped
      obtain ⟨notTaken, isNew, room⟩ := mixes
      exact counts.create (creates t name) notTaken isNew room
  | deleteEntry name =>
      cases stepped
      exact counts.delete mixes

/-- A reserved stream takes no bit and is counted besides. -/
theorem Counts.createReserved (counts : t.Counts besides)
    (taken : TakenForReserved name) (isNew : t.entryOf name = none)
    (apart : ∀ other entry, t.entryOf other = some entry →
      entry.mixerId ≠ (t.newEntry name).mixerId) :
    (t.createNewEntry name).2.Counts (besides + 1) where
  regular := by
    apply (creates t name).regular _ counts.regular
    exact {
      isNew := isNew
      isReserved := fun _ => taken
      apart := fun _ => apart
      below := fun notTaken => absurd taken notTaken }
  mixed := by
    rw [mixedStreams_create (creates t name) isNew, if_pos taken,
      (creates t name).mixers, (reserveMixerId_of_taken taken).1, counts.mixed,
      Nat.add_zero]
  total := by
    rw [(creates t name).total, (creates t name).mixers,
      (reserveMixerId_of_taken taken).1, counts.total]
    omega

end Counter

theorem counts_empty : ({} : IdLookup).Counts 0 where
  regular := regular_empty .reserved
  mixed := rfl
  total := rfl

/-- What is counted besides the mixed streams at the start. -/
theorem counts_start (bGenKaraoke : Bool) :
    (StreamService.State.start bGenKaraoke).idLookupTable.Counts
      (if bGenKaraoke then 2 else 1) := by
  have allInOne := counts_empty.createReserved
    (by decide : TakenForReserved GroupMixer.ALL_IN_ONE_STREAM_NAME) rfl
    (fun _ _ isEntry => nomatch isEntry)
  cases bGenKaraoke with
  | false => exact allInOne
  | true =>
      have karaoke := allInOne.createReserved
        (by decide : TakenForReserved GroupMixer.KARAOKE_ORIG_STREAM_NAME)
        (by decide +kernel) (by
          intro other entry isEntry
          rcases (creates _ _).entryOf_cases isEntry with ⟨_, isNew⟩ | ⟨_, old⟩
          · rw [isNew]
            decide
          · cases old)
      exact karaoke.create (creates _ GroupMixer.KARAOKE_DELAYED_STREAM_NAME)
        (by decide) (by decide +kernel) (by decide +kernel)

end IdLookup

/-! ## The array -/

namespace InputObject

theorem length_activePuts (input : InputObject) (lookup : MixerLookup) :
    (input.activePuts lookup).flatten.length =
      29 + input.flvFrame.length := by
  have four : ∀ value, (putInt value).length = 4 :=
    fun value => length_toLE 4 value.toNat
  simp only [activePuts, List.flatten_cons, List.flatten_nil,
    List.length_append, List.length_cons, List.length_nil, four]
  omega

variable {input : InputObject} {lookup : MixerLookup} {slot : Slot}

theorem length_otherPuts (isSlot : lookup.mixerId = UInt32.ofNat slot.val)
    (slots : List Slot) :
    ((slots.map Fin.val).flatMap (otherPuts lookup)).flatten.length =
      6 * (slots.filter fun i =>
        i ≠ slot && Streams.maskBit lookup.mask i).length := by
  induction slots with
  | nil => rfl
  | cons i rest inductionHypothesis =>
      rw [List.map_cons, List.flatMap_cons, List.flatten_append,
        List.length_append, inductionHypothesis, otherPuts_eq isSlot,
        List.filter_cons]
      by_cases other : i ≠ slot ∧ Streams.maskBit lookup.mask i = true
      · rw [if_pos other, if_pos (by simpa using other), List.length_cons]
        change 6 + _ = _
        omega
      · rw [if_neg other, if_neg (by simpa using other)]
        exact Nat.zero_add _

/-- The puts are as many bytes as a mask of that many records takes. -/
theorem length_puts (input : InputObject)
    (isSlot : lookup.mixerId = UInt32.ofNat slot.val)
    (isSet : Streams.maskBit lookup.mask slot = true) :
    (input.puts lookup).flatten.length =
      11 + input.flvFrame.length + 4 + (8 + 6 * maskCount lookup.mask) := by
  have positions : List.range 32 = Streams.slots.map Fin.val := by decide
  have others := Streams.length_filter_ne isSet
  rw [puts, maskCount, List.flatten_append, List.length_append,
    length_activePuts, positions, length_otherPuts isSlot]
  omega

/-- A counter that agrees with the mask fills the array exactly; only an array
beyond an `int` cannot be made. -/
theorem toByteBuffer_fills (isSlot : lookup.mixerId = UInt32.ofNat slot.val)
    (isSet : Streams.maskBit lookup.mask slot = true)
    (agree : lookup.streams = maskCount lookup.mask)
    (isArray : input.flvFrame.length < 2 ^ 31) :
    input.toByteBuffer lookup ≠ .error .bufferOverflow ∧
      ∀ flvSegment, input.toByteBuffer lookup = .ok flvSegment →
        flvSegment.written.length = flvSegment.capacity := by
  have length := length_puts input isSlot isSet
  have few := maskCount_le lookup.mask
  rw [toByteBuffer, ByteBuffer.allocate]
  by_cases negative : input.totalLen lookup < 0
  · rw [if_pos negative]
    constructor
    · intro overflows
      cases overflows
    · intro flvSegment isSegment
      cases isSegment
  · have whole :
        input.totalLen lookup = (input.puts lookup).flatten.length := by
      have size : (Int32.size : Int) = 4294967296 := rfl
      rw [totalLen, agree, Int32.toInt_ofInt, Int.bmod_def, size] at negative ⊢
      omega
    have capacity :
        (input.totalLen lookup).toNat = (input.puts lookup).flatten.length := by
      rw [whole, Int.toNat_natCast]
    rw [if_neg negative]
    simp only [Except.bind]
    rw [ByteBuffer.run_put]
    · constructor
      · intro overflows
        cases overflows
      · intro flvSegment isSegment
        cases isSegment
        rw [List.nil_append]
        exact capacity.symm
    · rw [capacity, List.length_nil, Nat.zero_add]

end InputObject

/-! ## Every state of the table -/

namespace IdLookup

variable {t : IdLookup} {name : JavaString}

theorem ofInt_slot (slot : Slot) :
    UInt32.ofInt (slot.val : Int) = UInt32.ofNat slot.val := by
  have everySlot :
      ∀ i : Fin 32, UInt32.ofInt (i.val : Int) = UInt32.ofNat i.val := by
    decide +kernel
  exact everySlot slot

section Counted

variable {besides : Int} (counts : t.Counts besides)

include counts

theorem Counts.isSlot {entry : GroupMappingTableEntry}
    (isEntry : t.entryOf name = some entry)
    (notTaken : ¬ TakenForReserved name) :
    ∃ slot : Slot, entry.mixerId = slot.val ∧
      slot.val ∈ t.mixerStreams := by
  have isSet := counts.regular.inStep.mixerId_mem isEntry notTaken
  have ordinary := counts.regular.inStep.ordinary _ _ isEntry notTaken
  refine ⟨⟨entry.mixerId.toNat, ?_⟩, ?_, isSet⟩
  · change entry.mixerId.toNat < 32
    omega
  · exact (Int.toNat_of_nonneg ordinary.1).symm

/-- The bits of the mask are the mixer ids of the table below 32. -/
theorem Counts.maskBit_iff (i : Slot) :
    Streams.maskBit t.getMixerMask i = true ↔
      ∃ other entry, t.entryOf other = some entry ∧
        entry.mixerId = i.val := by
  rw [maskBit_getMixerMask, decide_eq_true_eq, counts.regular.inStep.mixers]
  constructor
  · intro inUse
    obtain ⟨other, entry, isEntry, _, isId⟩ := inUse
    exact ⟨other, entry, isEntry, isId⟩
  · intro inUse
    obtain ⟨other, entry, isEntry, isId⟩ := inUse
    refine ⟨other, entry, isEntry, ?_, isId⟩
    intro reserved
    have beyond := counts.regular.beyond _ _ isEntry reserved
    have inside : i.val < 32 := i.isLt
    omega

theorem Counts.mixerStreams_lt (i : Nat) (isSet : i ∈ t.mixerStreams) :
    i < 32 := by
  obtain ⟨other, entry, isEntry, notReserved, isId⟩ :=
    (counts.regular.inStep.mixers i).mp isSet
  have ordinary := counts.regular.inStep.ordinary _ _ isEntry notReserved
  omega

/-- What the counter is ahead of the mask. -/
theorem Counts.difference :
    t.totalInputStreams - TOTAL_EXCLUDE_COUNT =
      maskCount t.getMixerMask + (besides - 2) := by
  have count := maskCount_getMixerMask counts.mixerStreams_lt
  have total := counts.total
  change t.totalInputStreams - 2 = _
  omega

/-- The counter agrees with the mask exactly if two streams are counted
besides the mixed ones. -/
theorem Counts.headerMatches_iff (known : (t.entryOf name).isSome = true)
    (notTaken : ¬ TakenForReserved name) :
    t.HeaderMatches name ↔ besides = 2 := by
  obtain ⟨entry, isEntry⟩ := Option.isSome_iff_exists.mp known
  have found : t.lookupMixerIdAndMask name = some {
      mixerId := UInt32.ofInt entry.mixerId
      mask := t.getMixerMask
      streams := t.totalInputStreams - TOTAL_EXCLUDE_COUNT } := by
    rw [entryOf] at isEntry
    rw [lookupMixerIdAndMask, isEntry]
  have difference := counts.difference
  constructor
  · intro headerMatches
    obtain ⟨lookup, isLookup, agree, _⟩ := headerMatches
    rw [found] at isLookup
    cases isLookup
    rw [difference] at agree
    dsimp only at agree
    omega
  · intro two
    obtain ⟨slot, isSlot, isSet⟩ := counts.isSlot isEntry notTaken
    have agree : t.totalInputStreams - TOTAL_EXCLUDE_COUNT =
        maskCount t.getMixerMask := by
      omega
    refine ⟨_, found, agree, counts.maskBit_iff, ?_⟩
    intro input isArray
    apply InputObject.toByteBuffer_fills _ _ agree isArray
    · exact slot
    · dsimp only
      rw [isSlot]
      exact ofInt_slot slot
    · rw [maskBit_getMixerMask]
      exact decide_eq_true isSet

end Counted

end IdLookup

/-- The header of every message fits the streams of the group exactly if the
karaoke streams are there. -/
theorem segmentHeader_matches_iff (bGenKaraoke : Bool) (calls : List IdCall)
    {t : IdLookup}
    (mixed : EveryStep IdLookup.step IdLookup.Mixes
      (StreamService.State.start bGenKaraoke).idLookupTable calls)
    (reached : run IdLookup.step
      (StreamService.State.start bGenKaraoke).idLookupTable calls = .ok t)
    {name : JavaString} (known : (t.entryOf name).isSome = true)
    (notTaken : ¬ IdLookup.TakenForReserved name) :
    t.HeaderMatches name ↔ bGenKaraoke = true := by
  have counts : t.Counts (if bGenKaraoke then 2 else 1) :=
    run_invariant_of_everyStep
      (fun u => u.Counts (if bGenKaraoke then 2 else 1))
      (fun _ _ _ counts mixes stepped => counts.step mixes stepped)
      (IdLookup.counts_start bGenKaraoke) mixed reached
  rw [counts.headerMatches_iff known notTaken]
  cases bGenKaraoke with
  | false => simp
  | true => simp

/-- One stream of two is left, next to the delayed karaoke. -/
theorem segmentHeader_matches_karaoke :
    ∃ t, run IdLookup.step (StreamService.State.start true).idLookupTable
        [.createNewEntry [97], .createNewEntry [98], .deleteEntry [97]] =
          .ok t ∧
      t.HeaderMatches [98] :=
  ⟨_, rfl,
    (segmentHeader_matches_iff true
      [.createNewEntry [97], .createNewEntry [98], .deleteEntry [97]]
      (by decide +kernel) rfl (by decide +kernel) (by decide)).mpr rfl⟩

/-- Without karaoke, the array for the only stream has no room for its
record. -/
theorem segmentHeader_overflows_alone :
    ∃ t lookup, run IdLookup.step
        (StreamService.State.start false).idLookupTable
        [.createNewEntry [97]] = .ok t ∧
      EveryStep IdLookup.step IdLookup.Mixes
        (StreamService.State.start false).idLookupTable
        [.createNewEntry [97]] ∧
      t.lookupMixerIdAndMask [97] = some lookup ∧
      lookup.streams = 0 ∧ maskCount lookup.mask = 1 ∧
      InputObject.toByteBuffer
        { msgType := 8, flvFrame := [0xaf, 1], eventTime := 0 } lookup =
          .error .bufferOverflow ∧
      ¬ t.HeaderMatches [97] := by
  refine ⟨_, _, rfl, by decide +kernel, rfl, by decide +kernel,
    by decide +kernel, by decide +kernel, ?_⟩
  intro headerMatches
  obtain ⟨lookup, isLookup, agree, _⟩ := headerMatches
  cases isLookup
  exact absurd agree (by decide +kernel)

end GroupVoip
