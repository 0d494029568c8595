import GroupVoip.IdLookup
import GroupVoip.Library.Runs

/-!
# The ids of the table

Two bit sets, a map and a counter stay in step as long as no name that is
there is created again, a reserved stream is not created a second time under a
variant of its name, and a mixer id below 32 is free for every other name.
-/

namespace GroupVoip

open Library.ClearBit Library.Runs

namespace IdLookup

def entryOf (t : IdLookup) (name : JavaString) :
    Option GroupMappingTableEntry :=
  t.groupMappingTable.lookup name

/-- The name is taken for a reserved stream. -/
def TakenForReserved (name : JavaString) : Prop :=
  name.equalsIgnoreCase GroupMixer.ALL_IN_ONE_STREAM_NAME = true ∨
    name.equalsIgnoreCase GroupMixer.KARAOKE_ORIG_STREAM_NAME = true

/-- What a name counts as that differs from a reserved one in case only.
The results hold either way. -/
inductive CaseVariants where
  | ordinary
  | reserved

def CaseVariants.IsReserved : CaseVariants → JavaString → Prop
  | .ordinary, name =>
      name = GroupMixer.ALL_IN_ONE_STREAM_NAME ∨
        name = GroupMixer.KARAOKE_ORIG_STREAM_NAME
  | .reserved, name => TakenForReserved name

/-- The two bit sets, the map and the counter are in step. -/
structure InStep (variants : CaseVariants) (t : IdLookup) : Prop where
  distinct : ∀ name₁ name₂ entry₁ entry₂, t.entryOf name₁ = some entry₁ →
    t.entryOf name₂ = some entry₂ → name₁ ≠ name₂ →
      entry₁.mixerId ≠ entry₂.mixerId ∧ entry₁.streamId ≠ entry₂.streamId
  found : ∀ name entry, t.entryOf name = some entry → ∀ entries,
    entries.Perm (t.groupMappingTable.entries.map Sigma.snd) →
      lookupStreamId entries entry.mixerId = entry.streamId
  ordinary : ∀ name entry, t.entryOf name = some entry →
    ¬ variants.IsReserved name → 0 ≤ entry.mixerId ∧ entry.mixerId < 32 ∧
      entry.mixerId ≠ ALL_IN_ONE_STREAM_MIXER_ID
  streams : ∀ i, i ∈ t.reservedStreams ↔
    ∃ name entry, t.entryOf name = some entry ∧ entry.streamId - 1 = i
  mixers : ∀ i, i ∈ t.mixerStreams ↔
    ∃ name entry, t.entryOf name = some entry ∧ ¬ variants.IsReserved name ∧
      entry.mixerId = i
  total : t.totalInputStreams = t.groupMappingTable.entries.length

/-- A name that is not there, no second name for a reserved stream, and a
mixer id below 32 for any other name. -/
def Admits (variants : CaseVariants) (t : IdLookup) : IdCall → Prop
  | .createNewEntry name =>
      t.entryOf name = none ∧
        (TakenForReserved name → variants.IsReserved name ∧
          ∀ other entry, t.entryOf other = some entry →
            entry.mixerId ≠ (t.reserveMixerId name).1) ∧
        (¬ TakenForReserved name → ∃ i, i < 32 ∧ i ∉ t.mixerStreams)
  | .deleteEntry _ => True

/-- What the calls rely on besides. -/
structure Regular (variants : CaseVariants) (t : IdLookup) : Prop where
  inStep : t.InStep variants
  beyond : ∀ name entry, t.entryOf name = some entry →
    variants.IsReserved name → 32 ≤ entry.mixerId
  positive : ∀ name entry, t.entryOf name = some entry → 0 < entry.streamId

/-! ## Looking an id up -/

/-- Where mixer ids differ, the order of the entries does not matter. -/
theorem lookupStreamId_of_unique {mixerId streamId : Int} :
    ∀ {entries : List GroupMappingTableEntry},
      (∃ entry, entry ∈ entries ∧ entry.mixerId = mixerId) →
      (∀ entry, entry ∈ entries → entry.mixerId = mixerId →
        entry.streamId = streamId) →
      lookupStreamId entries mixerId = streamId := by
  intro entries
  induction entries using List.reverseRecOn with
  | nil =>
      intro present _
      obtain ⟨entry, member, _⟩ := present
      cases member
  | append_singleton entries last inductionHypothesis =>
      intro present unique
      rw [lookupStreamId, List.foldl_append, List.foldl_cons, List.foldl_nil]
      by_cases same : last.mixerId = mixerId
      · rw [if_pos same]
        exact unique last (by simp) same
      · rw [if_neg same]
        apply inductionHypothesis
        · obtain ⟨entry, member, isMixerId⟩ := present
          rcases List.mem_append.mp member with before | isLast
          · exact ⟨entry, before, isMixerId⟩
          · rw [List.mem_singleton.mp isLast] at isMixerId
            exact absurd isMixerId same
        · intro entry member
          exact unique entry (List.mem_append_left _ member)

theorem mem_entries {t : IdLookup} {entry : GroupMappingTableEntry} :
    entry ∈ t.groupMappingTable.entries.map Sigma.snd ↔
      ∃ name, t.entryOf name = some entry := by
  rw [List.mem_map]
  constructor
  · intro member
    obtain ⟨⟨name, other⟩, isEntry, same⟩ := member
    exact ⟨name, by rw [← same]; exact AList.mem_lookup_iff.mpr isEntry⟩
  · intro known
    obtain ⟨name, isEntry⟩ := known
    exact ⟨⟨name, entry⟩, AList.mem_lookup_iff.mp isEntry, rfl⟩

theorem found_of_distinct {t : IdLookup}
    (distinct : ∀ name₁ name₂ entry₁ entry₂, t.entryOf name₁ = some entry₁ →
      t.entryOf name₂ = some entry₂ → name₁ ≠ name₂ →
        entry₁.mixerId ≠ entry₂.mixerId)
    {name : JavaString} {entry : GroupMappingTableEntry}
    (isEntry : t.entryOf name = some entry)
    {entries : List GroupMappingTableEntry}
    (order : entries.Perm (t.groupMappingTable.entries.map Sigma.snd)) :
    lookupStreamId entries entry.mixerId = entry.streamId := by
  apply lookupStreamId_of_unique
  · exact ⟨entry, order.mem_iff.mpr (mem_entries.mpr ⟨name, isEntry⟩), rfl⟩
  · intro other member same
    obtain ⟨otherName, isOther⟩ := mem_entries.mp (order.mem_iff.mp member)
    by_cases sameName : otherName = name
    · rw [sameName, isEntry] at isOther
      cases isOther
      rfl
    · exact absurd same (distinct _ _ _ _ isOther isEntry sameName)

/-! ## The number of entries -/

section Length

variable {α : Type} {β : α → Type} [DecidableEq α] {table : AList β} {a : α}

omit [DecidableEq α] in
theorem length_keys (table : AList β) :
    table.keys.length = table.entries.length :=
  List.length_map _

theorem length_insert_of_mem (b : β a) (known : a ∈ table) :
    (table.insert a b).entries.length = table.entries.length := by
  have isKey : a ∈ table.keys := AList.mem_keys.mp known
  rw [← length_keys, ← length_keys, AList.keys_insert, List.length_cons,
    List.length_erase_of_mem isKey]
  exact Nat.sub_add_cancel (List.length_pos_of_mem isKey)

theorem length_erase_of_mem (known : a ∈ table) :
    (table.erase a).entries.length + 1 = table.entries.length := by
  have isKey : a ∈ table.keys := AList.mem_keys.mp known
  rw [← length_keys, ← length_keys, AList.keys_erase,
    List.length_erase_of_mem isKey]
  exact Nat.sub_add_cancel (List.length_pos_of_mem isKey)

end Length

theorem mem_of_entryOf {t : IdLookup} {name : JavaString}
    {entry : GroupMappingTableEntry} (isEntry : t.entryOf name = some entry) :
    name ∈ t.groupMappingTable := by
  rw [← AList.lookup_isSome, ← entryOf, isEntry]
  rfl

/-! ## Reserved names -/

theorem CaseVariants.IsReserved.taken {variants : CaseVariants}
    {name : JavaString} (reserved : variants.IsReserved name) :
    TakenForReserved name := by
  cases variants with
  | ordinary =>
      rcases reserved with isAllInOne | isKaraoke
      · left
        rw [isAllInOne]
        decide
      · right
        rw [isKaraoke]
        decide
  | reserved => exact reserved

theorem reserveMixerId_of_taken {t : IdLookup} {name : JavaString}
    (taken : TakenForReserved name) :
    (t.reserveMixerId name).2 = t ∧ 32 ≤ (t.reserveMixerId name).1 := by
  rw [reserveMixerId]
  split
  · exact ⟨rfl, Int.le_refl 32⟩
  · rename_i notAllInOne
    split
    · exact ⟨rfl, (by decide : (32 : Int) ≤ 100)⟩
    · rename_i notKaraoke
      rcases taken with isAllInOne | isKaraoke
      · exact absurd isAllInOne notAllInOne
      · exact absurd isKaraoke notKaraoke

theorem reserveMixerId_of_not_taken {t : IdLookup} {name : JavaString}
    (notTaken : ¬ TakenForReserved name) :
    t.reserveMixerId name =
      ((lowestClear t.mixerStreams : Int),
        { t with mixerStreams :=
            insert (lowestClear t.mixerStreams) t.mixerStreams }) := by
  have notAllInOne :
      ¬ name.equalsIgnoreCase GroupMixer.ALL_IN_ONE_STREAM_NAME = true :=
    fun isAllInOne => notTaken (Or.inl isAllInOne)
  have notKaraoke :
      ¬ name.equalsIgnoreCase GroupMixer.KARAOKE_ORIG_STREAM_NAME = true :=
    fun isKaraoke => notTaken (Or.inr isKaraoke)
  rw [reserveMixerId, if_neg notAllInOne, if_neg notKaraoke]

/-! ## Creating an entry -/

def newEntry (t : IdLookup) (name : JavaString) : GroupMappingTableEntry where
  mixerId := (t.reserveMixerId name).1
  streamId := lowestClear t.reservedStreams + 1

/-- The table after a create. -/
structure Creates (t : IdLookup) (name : JavaString) (after : IdLookup) :
    Prop where
  table : after.groupMappingTable =
    t.groupMappingTable.insert name (t.newEntry name)
  reserved : after.reservedStreams =
    insert (lowestClear t.reservedStreams) t.reservedStreams
  mixers : after.mixerStreams = (t.reserveMixerId name).2.mixerStreams
  total : after.totalInputStreams = t.totalInputStreams + 1

theorem reserveMixerId_snd (t : IdLookup) (name : JavaString) :
    (t.reserveMixerId name).2 =
      { t with mixerStreams := (t.reserveMixerId name).2.mixerStreams } := by
  by_cases taken : TakenForReserved name
  · rw [(reserveMixerId_of_taken taken).1]
  · rw [reserveMixerId_of_not_taken taken]

theorem creates (t : IdLookup) (name : JavaString) :
    t.Creates name (t.createNewEntry name).2 := by
  have others := reserveMixerId_snd t name
  constructor
  · change (t.reserveMixerId name).2.groupMappingTable.insert name
      { mixerId := (t.reserveMixerId name).1,
        streamId := lowestClear (t.reserveMixerId name).2.reservedStreams + 1 }
      = _
    rw [others]
    rfl
  · change insert (lowestClear (t.reserveMixerId name).2.reservedStreams)
      (t.reserveMixerId name).2.reservedStreams = _
    rw [others]
  · rfl
  · change (t.reserveMixerId name).2.totalInputStreams + 1 = _
    rw [others]

section Create

variable {variants : CaseVariants} {t after : IdLookup} {name : JavaString}

theorem Creates.entryOf_self (created : t.Creates name after) :
    after.entryOf name = some (t.newEntry name) := by
  rw [entryOf, created.table, AList.lookup_insert]

theorem Creates.entryOf_ne (created : t.Creates name after)
    {other : JavaString} (differs : other ≠ name) :
    after.entryOf other = t.entryOf other := by
  rw [entryOf, created.table, AList.lookup_insert_ne differs, entryOf]

theorem Creates.entryOf_cases (created : t.Creates name after)
    {other : JavaString} {entry : GroupMappingTableEntry}
    (isEntry : after.entryOf other = some entry) :
    (other = name ∧ entry = t.newEntry name) ∨
      (other ≠ name ∧ t.entryOf other = some entry) := by
  by_cases same : other = name
  · left
    rw [same, created.entryOf_self] at isEntry
    exact ⟨same, (Option.some.inj isEntry).symm⟩
  · right
    rw [created.entryOf_ne same] at isEntry
    exact ⟨same, isEntry⟩

/-! ### What a create needs -/

theorem Creates.isNew (created : t.Creates name after)
    (regular : t.Regular variants) (inStep : after.InStep variants) :
    t.entryOf name = none := by
  have total := inStep.total
  rw [created.total, regular.inStep.total] at total
  cases known : t.entryOf name with
  | none => rfl
  | some old =>
      rw [created.table, length_insert_of_mem _ (mem_of_entryOf known)] at total
      omega

theorem newEntry_of_taken (taken : TakenForReserved name) :
    32 ≤ (t.newEntry name).mixerId :=
  (reserveMixerId_of_taken taken).2

theorem Creates.isReserved (created : t.Creates name after)
    (inStep : after.InStep variants) (taken : TakenForReserved name) :
    variants.IsReserved name := by
  by_contra notReserved
  have ordinary := inStep.ordinary name _ created.entryOf_self notReserved
  have beyond := newEntry_of_taken (t := t) taken
  omega

theorem Creates.mixerId_ne (created : t.Creates name after)
    (isNew : t.entryOf name = none) (inStep : after.InStep variants)
    (other : JavaString) (entry : GroupMappingTableEntry)
    (isEntry : t.entryOf other = some entry) :
    entry.mixerId ≠ (t.newEntry name).mixerId := by
  have differs : other ≠ name := by
    intro same
    rw [same, isNew] at isEntry
    cases isEntry
  have kept := (created.entryOf_ne differs).trans isEntry
  exact (inStep.distinct _ _ _ _ kept created.entryOf_self differs).1

theorem newEntry_of_not_taken (notTaken : ¬ TakenForReserved name) :
    (t.newEntry name).mixerId = lowestClear t.mixerStreams := by
  rw [newEntry, reserveMixerId_of_not_taken notTaken]

theorem Creates.clear (created : t.Creates name after)
    (inStep : after.InStep variants) (notTaken : ¬ TakenForReserved name) :
    ∃ i, i < 32 ∧ i ∉ t.mixerStreams := by
  have notReserved : ¬ variants.IsReserved name :=
    fun reserved => notTaken reserved.taken
  have ordinary := inStep.ordinary name _ created.entryOf_self notReserved
  rw [newEntry_of_not_taken notTaken] at ordinary
  exact ⟨lowestClear t.mixerStreams, by omega,
    lowestClear_not_mem t.mixerStreams⟩

/-! ### What a create keeps -/

structure Fits (variants : CaseVariants) (t : IdLookup) (name : JavaString) :
    Prop where
  isNew : t.entryOf name = none
  isReserved : TakenForReserved name → variants.IsReserved name
  apart : TakenForReserved name → ∀ other entry,
    t.entryOf other = some entry → entry.mixerId ≠ (t.newEntry name).mixerId
  below : ¬ TakenForReserved name → lowestClear t.mixerStreams < 32

theorem fits_of_admits (admitted : t.Admits variants (.createNewEntry name)) :
    t.Fits variants name := by
  obtain ⟨isNew, reserved, clear⟩ := admitted
  refine ⟨isNew, fun taken => (reserved taken).1,
    fun taken => (reserved taken).2, ?_⟩
  intro notTaken
  obtain ⟨i, below, isClear⟩ := clear notTaken
  exact Nat.lt_of_le_of_lt (lowestClear_le isClear) below

theorem InStep.mixerId_mem (inStep : t.InStep variants)
    {entry : GroupMappingTableEntry}
    (isEntry : t.entryOf name = some entry)
    (ordinary : ¬ variants.IsReserved name) :
    entry.mixerId.toNat ∈ t.mixerStreams := by
  apply (inStep.mixers _).mpr
  refine ⟨name, entry, isEntry, ordinary, ?_⟩
  exact (Int.toNat_of_nonneg (inStep.ordinary _ _ isEntry ordinary).1).symm

theorem Regular.streamId_mem (regular : t.Regular variants)
    {entry : GroupMappingTableEntry} (isEntry : t.entryOf name = some entry) :
    (entry.streamId - 1).toNat ∈ t.reservedStreams := by
  have positive := regular.positive _ _ isEntry
  apply (regular.inStep.streams _).mpr
  exact ⟨name, entry, isEntry, (Int.toNat_of_nonneg (by omega)).symm⟩

theorem Fits.mixerId_ne (fits : t.Fits variants name)
    (regular : t.Regular variants) {other : JavaString}
    {entry : GroupMappingTableEntry}
    (isEntry : t.entryOf other = some entry) :
    entry.mixerId ≠ (t.newEntry name).mixerId := by
  by_cases taken : TakenForReserved name
  · exact fits.apart taken other entry isEntry
  · rw [newEntry_of_not_taken taken]
    by_cases otherReserved : variants.IsReserved other
    · have beyond := regular.beyond _ _ isEntry otherReserved
      have below := fits.below taken
      omega
    · have isSet := regular.inStep.mixerId_mem isEntry otherReserved
      have isClear := lowestClear_not_mem t.mixerStreams
      intro same
      rw [same, Int.toNat_natCast] at isSet
      exact isClear isSet

theorem Regular.streamId_ne (regular : t.Regular variants) {other : JavaString}
    {entry : GroupMappingTableEntry}
    (isEntry : t.entryOf other = some entry) :
    entry.streamId ≠ (t.newEntry name).streamId := by
  have isSet := regular.streamId_mem isEntry
  have isClear := lowestClear_not_mem t.reservedStreams
  intro same
  rw [same, newEntry, Int.add_sub_cancel, Int.toNat_natCast] at isSet
  exact isClear isSet

theorem Creates.distinct (created : t.Creates name after)
    (fits : t.Fits variants name) (regular : t.Regular variants)
    (name₁ name₂ : JavaString)
    (entry₁ entry₂ : GroupMappingTableEntry)
    (isEntry₁ : after.entryOf name₁ = some entry₁)
    (isEntry₂ : after.entryOf name₂ = some entry₂) (differs : name₁ ≠ name₂) :
    entry₁.mixerId ≠ entry₂.mixerId ∧ entry₁.streamId ≠ entry₂.streamId := by
  rcases created.entryOf_cases isEntry₁ with ⟨isName₁, isNew₁⟩ | ⟨_, old₁⟩ <;>
    rcases created.entryOf_cases isEntry₂ with ⟨isName₂, isNew₂⟩ | ⟨_, old₂⟩
  · exact absurd (isName₁.trans isName₂.symm) differs
  · rw [isNew₁]
    exact ⟨(fits.mixerId_ne regular old₂).symm,
      (regular.streamId_ne old₂).symm⟩
  · rw [isNew₂]
    exact ⟨fits.mixerId_ne regular old₁, regular.streamId_ne old₁⟩
  · exact regular.inStep.distinct _ _ _ _ old₁ old₂ differs

theorem Fits.ne (fits : t.Fits variants name) {other : JavaString}
    {entry : GroupMappingTableEntry} (isEntry : t.entryOf other = some entry) :
    other ≠ name := by
  intro same
  rw [same, fits.isNew] at isEntry
  cases isEntry

theorem Creates.ordinary (created : t.Creates name after)
    (fits : t.Fits variants name) (regular : t.Regular variants)
    (other : JavaString) (entry : GroupMappingTableEntry)
    (isEntry : after.entryOf other = some entry)
    (isOrdinary : ¬ variants.IsReserved other) :
    0 ≤ entry.mixerId ∧ entry.mixerId < 32 ∧
      entry.mixerId ≠ ALL_IN_ONE_STREAM_MIXER_ID := by
  rcases created.entryOf_cases isEntry with ⟨isName, isNew⟩ | ⟨_, old⟩
  · have notTaken : ¬ TakenForReserved name := by
      intro taken
      rw [isName] at isOrdinary
      exact isOrdinary (fits.isReserved taken)
    have below := fits.below notTaken
    rw [isNew, newEntry_of_not_taken notTaken]
    refine ⟨Int.natCast_nonneg _, by omega, ?_⟩
    change (lowestClear t.mixerStreams : Int) ≠ 32
    omega
  · exact regular.inStep.ordinary _ _ old isOrdinary

theorem Creates.streams (created : t.Creates name after)
    (fits : t.Fits variants name) (regular : t.Regular variants) (i : Nat) :
    i ∈ after.reservedStreams ↔
      ∃ other entry, after.entryOf other = some entry ∧
        entry.streamId - 1 = i := by
  rw [created.reserved, Finset.mem_insert]
  constructor
  · intro isSet
    rcases isSet with isNew | isOld
    · refine ⟨name, _, created.entryOf_self, ?_⟩
      rw [isNew, newEntry, Int.add_sub_cancel]
    · obtain ⟨other, entry, isEntry, isId⟩ :=
        (regular.inStep.streams i).mp isOld
      refine ⟨other, entry, ?_, isId⟩
      rw [created.entryOf_ne (fits.ne isEntry), isEntry]
  · intro hasEntry
    obtain ⟨other, entry, isEntry, isId⟩ := hasEntry
    rcases created.entryOf_cases isEntry with ⟨_, isNew⟩ | ⟨_, old⟩
    · left
      rw [isNew, newEntry, Int.add_sub_cancel] at isId
      exact (Int.ofNat.inj isId).symm
    · right
      exact (regular.inStep.streams i).mpr ⟨other, entry, old, isId⟩

/-- A create sets the bit of its mixer id if the name is ordinary. -/
theorem Creates.mem_mixerStreams (created : t.Creates name after)
    (fits : t.Fits variants name) (i : Nat) :
    i ∈ after.mixerStreams ↔
      (¬ variants.IsReserved name ∧ (t.newEntry name).mixerId = i) ∨
        i ∈ t.mixerStreams := by
  rw [created.mixers]
  by_cases taken : TakenForReserved name
  · have reserved := fits.isReserved taken
    rw [(reserveMixerId_of_taken taken).1]
    simp [reserved]
  · have notReserved : ¬ variants.IsReserved name :=
      fun reserved => taken reserved.taken
    rw [newEntry_of_not_taken taken, reserveMixerId_of_not_taken taken,
      Finset.mem_insert, Int.natCast_inj]
    simp [notReserved, eq_comm]

theorem Creates.mixerStreams (created : t.Creates name after)
    (fits : t.Fits variants name) (regular : t.Regular variants) (i : Nat) :
    i ∈ after.mixerStreams ↔
      ∃ other entry, after.entryOf other = some entry ∧
        ¬ variants.IsReserved other ∧ entry.mixerId = i := by
  rw [created.mem_mixerStreams fits]
  constructor
  · intro isSet
    rcases isSet with ⟨isOrdinary, isId⟩ | isOld
    · exact ⟨name, _, created.entryOf_self, isOrdinary, isId⟩
    · rcases (regular.inStep.mixers i).mp isOld with
        ⟨other, entry, isEntry, rest⟩
      refine ⟨other, entry, ?_, rest⟩
      rw [created.entryOf_ne (fits.ne isEntry), isEntry]
  · intro hasEntry
    rcases hasEntry with ⟨other, entry, isEntry, isOrdinary, isId⟩
    rcases created.entryOf_cases isEntry with ⟨isName, isNew⟩ | ⟨_, old⟩
    · left
      rw [isName] at isOrdinary
      rw [isNew] at isId
      exact ⟨isOrdinary, isId⟩
    · right
      exact (regular.inStep.mixers i).mpr
        ⟨other, entry, old, isOrdinary, isId⟩

theorem Creates.inStep (created : t.Creates name after)
    (fits : t.Fits variants name) (regular : t.Regular variants) :
    after.InStep variants where
  distinct := created.distinct fits regular
  found := by
    intro other entry isEntry entries order
    apply found_of_distinct _ isEntry order
    intro name₁ name₂ entry₁ entry₂ isEntry₁ isEntry₂ differs
    exact (created.distinct fits regular _ _ _ _ isEntry₁ isEntry₂ differs).1
  ordinary := created.ordinary fits regular
  streams := created.streams fits regular
  mixers := created.mixerStreams fits regular
  total := by
    have notMember := AList.lookup_eq_none.mp fits.isNew
    rw [created.total, regular.inStep.total, created.table,
      AList.entries_insert_of_notMem notMember, List.length_cons,
      Int.natCast_succ]

theorem Creates.regular (created : t.Creates name after)
    (fits : t.Fits variants name) (regular : t.Regular variants) :
    after.Regular variants where
  inStep := created.inStep fits regular
  beyond := by
    intro other entry isEntry isReserved
    rcases created.entryOf_cases isEntry with ⟨isName, isNew⟩ | ⟨_, old⟩
    · rw [isName] at isReserved
      rw [isNew]
      exact newEntry_of_taken isReserved.taken
    · exact regular.beyond _ _ old isReserved
  positive := by
    intro other entry isEntry
    rcases created.entryOf_cases isEntry with ⟨_, isNew⟩ | ⟨_, old⟩
    · rw [isNew, newEntry]
      change (0 : Int) < lowestClear t.reservedStreams + 1
      omega
    · exact regular.positive _ _ old

theorem Creates.inStep_iff (created : t.Creates name after)
    (regular : t.Regular variants) :
    after.InStep variants ↔ t.Admits variants (.createNewEntry name) := by
  constructor
  · intro inStep
    have isNew := created.isNew regular inStep
    refine ⟨isNew, ?_, created.clear inStep⟩
    intro taken
    exact ⟨created.isReserved inStep taken,
      created.mixerId_ne isNew inStep⟩
  · intro admitted
    exact created.inStep (fits_of_admits admitted) regular

end Create

/-! ## Deleting an entry -/

/-- The table after a name that is there has been deleted. -/
structure Deletes (t : IdLookup) (name : JavaString)
    (entry : GroupMappingTableEntry) (after : IdLookup) : Prop where
  table : after.groupMappingTable = t.groupMappingTable.erase name
  reserved : after.reservedStreams =
    t.reservedStreams.erase (entry.streamId - 1).toNat
  mixers : after.mixerStreams = t.mixerStreams.erase entry.mixerId.toNat
  total : after.totalInputStreams = t.totalInputStreams - 1

section Delete

variable {variants : CaseVariants} {t after : IdLookup} {name : JavaString}
  {entry : GroupMappingTableEntry}

theorem Regular.mixerId_nonneg (regular : t.Regular variants)
    (isEntry : t.entryOf name = some entry) : 0 ≤ entry.mixerId := by
  by_cases reserved : variants.IsReserved name
  · have beyond := regular.beyond _ _ isEntry reserved
    omega
  · exact (regular.inStep.ordinary _ _ isEntry reserved).1

theorem Regular.deletes (regular : t.Regular variants)
    (isEntry : t.entryOf name = some entry) :
    t.Deletes name entry (t.deleteEntry name).2 := by
  have positive := regular.positive _ _ isEntry
  have nonneg := regular.mixerId_nonneg isEntry
  rw [entryOf] at isEntry
  rw [deleteEntry, isEntry]
  dsimp only
  rw [unreserveStreamId, if_pos positive, unreserveMixerId, if_pos nonneg]
  exact ⟨rfl, rfl, rfl, rfl⟩

theorem deleteEntry_of_none (missing : t.entryOf name = none) :
    (t.deleteEntry name).2 = t := by
  rw [entryOf] at missing
  rw [deleteEntry, missing]

theorem unreserve_groupMappingTable (t : IdLookup) (streamId mixerId : Int) :
    ((t.unreserveStreamId streamId).unreserveMixerId
      mixerId).groupMappingTable = t.groupMappingTable := by
  rw [unreserveMixerId, unreserveStreamId]
  split <;> split <;> rfl

theorem entryOf_deleteEntry (t : IdLookup) (name other : JavaString) :
    (t.deleteEntry name).2.entryOf other =
      if other = name then none else t.entryOf other := by
  cases known : t.entryOf name with
  | none =>
      rw [deleteEntry_of_none known]
      by_cases same : other = name
      · rw [if_pos same, same, known]
      · rw [if_neg same]
  | some entry =>
      rw [entryOf] at known
      rw [deleteEntry, known]
      dsimp only
      rw [entryOf, unreserve_groupMappingTable]
      by_cases same : other = name
      · rw [if_pos same, same, AList.lookup_erase]
      · rw [if_neg same, AList.lookup_erase_ne same, entryOf]

theorem Deletes.entryOf_iff (deleted : t.Deletes name entry after)
    {other : JavaString} {otherEntry : GroupMappingTableEntry} :
    after.entryOf other = some otherEntry ↔
      other ≠ name ∧ t.entryOf other = some otherEntry := by
  rw [entryOf, deleted.table]
  by_cases same : other = name
  · rw [same, AList.lookup_erase]
    simp
  · rw [AList.lookup_erase_ne same, entryOf]
    simp [same]

theorem Deletes.streams (deleted : t.Deletes name entry after)
    (regular : t.Regular variants)
    (isEntry : t.entryOf name = some entry) (i : Nat) :
    i ∈ after.reservedStreams ↔
      ∃ other otherEntry, after.entryOf other = some otherEntry ∧
        otherEntry.streamId - 1 = i := by
  have positive := regular.positive _ _ isEntry
  rw [deleted.reserved, Finset.mem_erase, regular.inStep.streams i]
  constructor
  · rintro ⟨differs, other, otherEntry, isOther, isId⟩
    refine ⟨other, otherEntry, deleted.entryOf_iff.mpr ⟨?_, isOther⟩, isId⟩
    intro same
    rw [same, isEntry] at isOther
    cases isOther
    omega
  · rintro ⟨other, otherEntry, isOther, isId⟩
    obtain ⟨differs, isOther⟩ := deleted.entryOf_iff.mp isOther
    have apart :=
      (regular.inStep.distinct _ _ _ _ isOther isEntry differs).2
    exact ⟨by omega, other, otherEntry, isOther, isId⟩

theorem Deletes.mixerStreams (deleted : t.Deletes name entry after)
    (regular : t.Regular variants)
    (isEntry : t.entryOf name = some entry) (i : Nat) :
    i ∈ after.mixerStreams ↔
      ∃ other otherEntry, after.entryOf other = some otherEntry ∧
        ¬ variants.IsReserved other ∧ otherEntry.mixerId = i := by
  have nonneg := regular.mixerId_nonneg isEntry
  rw [deleted.mixers, Finset.mem_erase, regular.inStep.mixers i]
  constructor
  · rintro ⟨differs, other, otherEntry, isOther, isOrdinary, isId⟩
    refine ⟨other, otherEntry, deleted.entryOf_iff.mpr ⟨?_, isOther⟩,
      isOrdinary, isId⟩
    intro same
    rw [same, isEntry] at isOther
    cases isOther
    omega
  · rintro ⟨other, otherEntry, isOther, isOrdinary, isId⟩
    obtain ⟨differs, isOther⟩ := deleted.entryOf_iff.mp isOther
    have apart :=
      (regular.inStep.distinct _ _ _ _ isOther isEntry differs).1
    exact ⟨by omega, other, otherEntry, isOther, isOrdinary, isId⟩

theorem Deletes.inStep (deleted : t.Deletes name entry after)
    (regular : t.Regular variants) (isEntry : t.entryOf name = some entry) :
    after.InStep variants where
  distinct := by
    intro name₁ name₂ entry₁ entry₂ isEntry₁ isEntry₂
    exact regular.inStep.distinct _ _ _ _ (deleted.entryOf_iff.mp isEntry₁).2
      (deleted.entryOf_iff.mp isEntry₂).2
  found := by
    intro other otherEntry isOther entries order
    apply found_of_distinct _ isOther order
    intro name₁ name₂ entry₁ entry₂ isEntry₁ isEntry₂ differs
    exact (regular.inStep.distinct _ _ _ _
      (deleted.entryOf_iff.mp isEntry₁).2
      (deleted.entryOf_iff.mp isEntry₂).2 differs).1
  ordinary := by
    intro other otherEntry isOther
    exact regular.inStep.ordinary _ _ (deleted.entryOf_iff.mp isOther).2
  streams := deleted.streams regular isEntry
  mixers := deleted.mixerStreams regular isEntry
  total := by
    have length := length_erase_of_mem (mem_of_entryOf isEntry)
    rw [deleted.total, regular.inStep.total, deleted.table]
    omega

theorem Deletes.regular (deleted : t.Deletes name entry after)
    (regular : t.Regular variants) (isEntry : t.entryOf name = some entry) :
    after.Regular variants where
  inStep := deleted.inStep regular isEntry
  beyond := by
    intro other otherEntry isOther
    exact regular.beyond _ _ (deleted.entryOf_iff.mp isOther).2
  positive := by
    intro other otherEntry isOther
    exact regular.positive _ _ (deleted.entryOf_iff.mp isOther).2

end Delete

theorem Regular.deleteEntry {variants : CaseVariants} {t : IdLookup}
    (regular : t.Regular variants) (name : JavaString) :
    (t.deleteEntry name).2.Regular variants := by
  cases known : t.entryOf name with
  | none =>
      rw [deleteEntry_of_none known]
      exact regular
  | some entry => exact (regular.deletes known).regular regular known

/-! ## Runs -/

theorem regular_empty (variants : CaseVariants) :
    ({} : IdLookup).Regular variants where
  inStep := {
    distinct := by
      intro name₁ _ entry₁ _ isEntry
      cases isEntry
    found := by
      intro name entry isEntry
      cases isEntry
    ordinary := by
      intro name entry isEntry
      cases isEntry
    streams := by
      intro i
      constructor
      · intro isSet
        exact absurd isSet (Finset.notMem_empty i)
      · rintro ⟨_, _, isEntry, _⟩
        cases isEntry
    mixers := by
      intro i
      constructor
      · intro isSet
        exact absurd isSet (Finset.notMem_empty i)
      · rintro ⟨_, _, isEntry, _⟩
        cases isEntry
    total := rfl }
  beyond := by
    intro name entry isEntry
    cases isEntry
  positive := by
    intro name entry isEntry
    cases isEntry

def StaysInStep (variants : CaseVariants) (t : IdLookup) (call : IdCall) :
    Prop :=
  ∀ after, t.step call = .ok after → after.InStep variants

theorem Regular.staysInStep_iff {variants : CaseVariants} {t : IdLookup}
    (regular : t.Regular variants)
    (call : IdCall) : t.StaysInStep variants call ↔ t.Admits variants call := by
  cases call with
  | createNewEntry name =>
      rw [← (creates t name).inStep_iff regular]
      constructor
      · intro stays
        exact stays _ rfl
      · intro inStep after stepped
        cases stepped
        exact inStep
  | deleteEntry name =>
      constructor
      · intro _
        trivial
      · intro _ after stepped
        cases stepped
        exact (regular.deleteEntry name).inStep

theorem Regular.step {variants : CaseVariants} {t after : IdLookup}
    (regular : t.Regular variants)
    {call : IdCall} (admitted : t.Admits variants call)
    (stepped : t.step call = .ok after) : after.Regular variants := by
  cases call with
  | createNewEntry name =>
      cases stepped
      exact (creates t name).regular (fits_of_admits admitted) regular
  | deleteEntry name =>
      cases stepped
      exact regular.deleteEntry name

/-- The stream id of the first create is never given back. -/
theorem not_staysInStep_createdTwice (variants : CaseVariants) :
    ¬ EveryStep IdLookup.step (StaysInStep variants) {}
      [.createNewEntry [97], .createNewEntry [97]] := by
  intro stays
  have second := everyStep_iff_forall_prefix.mp stays
    [.createNewEntry [97]] (.createNewEntry [97]) [] _ rfl rfl
  have total := (second _ rfl).total
  exact absurd total (by decide)

end IdLookup

/-- The table is in step after every call of a run exactly if every call is
admitted. -/
theorem idTable_inStep_iff (variants : IdLookup.CaseVariants)
    (calls : List IdCall) :
    EveryStep IdLookup.step (IdLookup.StaysInStep variants) {} calls ↔
      EveryStep IdLookup.step (IdLookup.Admits variants) {} calls :=
  everyStep_congr (IdLookup.Regular variants)
    (fun _ call regular => regular.staysInStep_iff call)
    (fun _ _ _ regular admitted stepped => regular.step admitted stepped)
    (IdLookup.regular_empty variants)

/-- A name that is created twice is counted twice. -/
theorem idTable_outOfStep_createdTwice :
    ¬ EveryStep IdLookup.step (IdLookup.StaysInStep .ordinary) {}
        [.createNewEntry [97], .createNewEntry [97]] ∧
      ¬ EveryStep IdLookup.step (IdLookup.StaysInStep .reserved) {}
        [.createNewEntry [97], .createNewEntry [97]] :=
  ⟨IdLookup.not_staysInStep_createdTwice .ordinary,
    IdLookup.not_staysInStep_createdTwice .reserved⟩

end GroupVoip
