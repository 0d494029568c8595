import GroupVoip.AllInOneIds

/-!
# The runs of the two allocators

Each index goes through its phases by itself: a name enters the table on it,
the connection reserves it and publishes the name, and a name that has left
the table leaves the connection later, when the table may have given the index
to another name already.
-/

namespace GroupVoip

open Library.ClearBit Library.Runs

namespace AllInOne

open StreamService

/-! ## Phases -/

inductive Phase where
  | free
  | entered (op : Nat) (streamName : JavaString)
  | reserved (op : Nat) (streamName : JavaString)
  | published (streamName : JavaString)
  | leaving (oldName : JavaString)
  | reentered (oldName : JavaString) (op : Nat) (streamName : JavaString)

def CreateCall.on (index op : Nat) (streamName : JavaString) : CreateCall :=
  ⟨op, streamName, index + 1⟩

def Pending.streamId : Pending → Int
  | .createStream call => call.newStreamId
  | .publish call => call.newStreamId
  | .deleteStream streamId => streamId

namespace Phase

/-- The name of the entry with the index. -/
def entry : Phase → Option JavaString
  | .free => none
  | .entered _ streamName => some streamName
  | .reserved _ streamName => some streamName
  | .published streamName => some streamName
  | .leaving _ => none
  | .reentered _ _ streamName => some streamName

/-- The index on the connection, once its queue is handled. -/
def stream : Phase → Option (Option JavaString)
  | .free => none
  | .entered _ _ => none
  | .reserved _ _ => some none
  | .published streamName => some (some (mixedName streamName))
  | .leaving oldName => some (some (mixedName oldName))
  | .reentered oldName _ _ => some (some (mixedName oldName))

/-- What is still to be queued for the index. -/
def calls (index : Nat) : Phase → List Pending
  | .free => []
  | .entered op streamName => [.createStream (.on index op streamName)]
  | .reserved op streamName => [.publish (.on index op streamName)]
  | .published _ => []
  | .leaving _ => [.deleteStream (index + 1)]
  | .reentered _ op streamName =>
      [.deleteStream (index + 1), .createStream (.on index op streamName)]

theorem streamId_of_mem {phase : Phase} {index : Nat} {pending : Pending}
    (isCall : pending ∈ phase.calls index) : pending.streamId = index + 1 := by
  cases phase with
  | free => cases isCall
  | entered op streamName =>
      rw [List.mem_singleton.mp isCall]
      rfl
  | reserved op streamName =>
      rw [List.mem_singleton.mp isCall]
      rfl
  | published streamName => cases isCall
  | leaving oldName =>
      rw [List.mem_singleton.mp isCall]
      rfl
  | reentered oldName op streamName =>
      rw [calls, List.mem_pair] at isCall
      rcases isCall with isDelete | isCreate
      · rw [isDelete]
        rfl
      · rw [isCreate]
        rfl

theorem createStream_mem {phase : Phase} {index : Nat} {call : CreateCall}
    (isCall : .createStream call ∈ phase.calls index) :
    ∃ op streamName, call = .on index op streamName ∧
      (phase = .entered op streamName ∨
        ∃ oldName, phase = .reentered oldName op streamName) := by
  cases phase with
  | entered op streamName =>
      have same := Pending.createStream.inj (List.mem_singleton.mp isCall)
      exact ⟨op, streamName, same, .inl rfl⟩
  | reentered oldName op streamName =>
      simp only [calls, List.mem_pair, reduceCtorEq, false_or] at isCall
      exact ⟨op, streamName, Pending.createStream.inj isCall,
        .inr ⟨oldName, rfl⟩⟩
  | _ => simp [calls] at isCall

theorem publish_mem {phase : Phase} {index : Nat} {call : CreateCall}
    (isCall : .publish call ∈ phase.calls index) :
    ∃ op streamName, call = .on index op streamName ∧
      phase = .reserved op streamName := by
  cases phase with
  | reserved op streamName =>
      have same := Pending.publish.inj (List.mem_singleton.mp isCall)
      exact ⟨op, streamName, same, rfl⟩
  | _ => simp [calls] at isCall

theorem deleteStream_mem {phase : Phase} {index : Nat} {streamId : Int}
    (isCall : .deleteStream streamId ∈ phase.calls index) :
    streamId = index + 1 ∧
      ∃ oldName, phase = .leaving oldName ∨
        ∃ op streamName, phase = .reentered oldName op streamName := by
  refine ⟨streamId_of_mem isCall, ?_⟩
  cases phase with
  | leaving oldName => exact ⟨oldName, .inl rfl⟩
  | reentered oldName op streamName =>
      exact ⟨oldName, .inr ⟨op, streamName, rfl⟩⟩
  | _ => simp [calls] at isCall

end Phase

/-! ## The table -/

section Table

variable {phases : Nat → Phase} {t : IdLookup} {name : JavaString}
  {new : Phase}

/-- The table has the entries of the phases. -/
structure TableTracks (phases : Nat → Phase) (t : IdLookup) : Prop where
  entries : ∀ index name, (phases index).entry = some name ↔
    ∃ entry, t.entryOf name = some entry ∧ entry.streamId = index + 1
  positive : ∀ name entry, t.entryOf name = some entry →
    ∃ index : Nat, entry.streamId = index + 1
  reserved : ∀ index, index ∈ t.reservedStreams ↔
    (phases index).entry ≠ none

theorem TableTracks.of_entry_eq (tracks : TableTracks phases t)
    {index : Nat} (same : new.entry = (phases index).entry) :
    TableTracks (Function.update phases index new) t := by
  have sameEntries : ∀ other,
      (Function.update phases index new other).entry =
        (phases other).entry := by
    intro other
    by_cases isIndex : other = index
    · rw [isIndex, Function.update_self, same]
    · rw [Function.update_of_ne isIndex]
  constructor
  · intro other
    rw [sameEntries]
    exact tracks.entries other
  · exact tracks.positive
  · intro other
    rw [sameEntries]
    exact tracks.reserved other

theorem TableTracks.free (tracks : TableTracks phases t) :
    (phases (lowestClear t.reservedStreams)).entry = none := by
  by_contra isEntry
  exact lowestClear_not_mem t.reservedStreams
    ((tracks.reserved _).mpr isEntry)

theorem TableTracks.createNewEntry (tracks : TableTracks phases t)
    (isNew : t.entryOf name = none) (isEntry : new.entry = some name) :
    TableTracks
      (Function.update phases (lowestClear t.reservedStreams) new)
      (t.createNewEntry name).2 := by
  have created := IdLookup.creates t name
  have free := tracks.free
  constructor
  · intro index other
    by_cases same : index = lowestClear t.reservedStreams
    · rw [same, Function.update_self, isEntry]
      constructor
      · intro isName
        cases isName
        exact ⟨_, created.entryOf_self, rfl⟩
      · rintro ⟨entry, found, isId⟩
        rcases created.entryOf_cases found with ⟨isName, -⟩ | ⟨-, old⟩
        · rw [isName]
        · have taken := (tracks.entries _ other).mpr ⟨entry, old, isId⟩
          rw [free] at taken
          cases taken
    · rw [Function.update_of_ne same, tracks.entries]
      constructor
      · rintro ⟨entry, found, isId⟩
        have differs : other ≠ name := by
          intro isName
          rw [isName, isNew] at found
          cases found
        rw [created.entryOf_ne differs]
        exact ⟨entry, found, isId⟩
      · rintro ⟨entry, found, isId⟩
        rcases created.entryOf_cases found with ⟨-, isNewEntry⟩ | ⟨-, old⟩
        · rw [isNewEntry] at isId
          change (lowestClear t.reservedStreams : Int) + 1 = index + 1 at isId
          omega
        · exact ⟨entry, old, isId⟩
  · intro other entry found
    rcases created.entryOf_cases found with ⟨-, isNewEntry⟩ | ⟨-, old⟩
    · rw [isNewEntry]
      exact ⟨_, rfl⟩
    · exact tracks.positive other entry old
  · intro index
    rw [created.reserved, Finset.mem_insert]
    by_cases same : index = lowestClear t.reservedStreams
    · rw [same, Function.update_self, isEntry]
      simp
    · rw [Function.update_of_ne same, tracks.reserved]
      simp [same]

theorem TableTracks.deleteEntry {index : Nat}
    (tracks : TableTracks phases t)
    (isEntry : (phases index).entry = some name) (left : new.entry = none) :
    (t.deleteEntry name).1 = index + 1 ∧
      TableTracks (Function.update phases index new)
        (t.deleteEntry name).2 := by
  obtain ⟨entry, found, isId⟩ := (tracks.entries index name).mp isEntry
  have position : ((index : Int) + 1 - 1).toNat = index := by omega
  have reserved : (t.deleteEntry name).2.reservedStreams =
      t.reservedStreams.erase index := by
    rw [IdLookup.entryOf] at found
    rw [IdLookup.deleteEntry, found]
    dsimp only
    rw [isId, IdLookup.unreserveStreamId, if_pos (by omega), position,
      IdLookup.unreserveMixerId]
    split <;> rfl
  constructor
  · rw [IdLookup.entryOf] at found
    rw [IdLookup.deleteEntry, found]
    exact isId
  constructor
  · intro other otherName
    rw [IdLookup.entryOf_deleteEntry]
    by_cases same : other = index
    · rw [same, Function.update_self, left]
      constructor
      · intro isName
        cases isName
      · rintro ⟨otherEntry, foundToo, isOtherId⟩
        split at foundToo
        · cases foundToo
        · rename_i differs
          have taken := (tracks.entries index otherName).mpr
            ⟨otherEntry, foundToo, isOtherId⟩
          rw [isEntry] at taken
          exact absurd (Option.some.inj taken).symm differs
    · rw [Function.update_of_ne same, tracks.entries]
      by_cases isName : otherName = name
      · rw [if_pos isName, isName, found]
        constructor
        · rintro ⟨_, isOther, isOtherId⟩
          cases isOther
          omega
        · rintro ⟨_, isOther, -⟩
          cases isOther
      · rw [if_neg isName]
  · intro otherName otherEntry foundToo
    rw [IdLookup.entryOf_deleteEntry] at foundToo
    split at foundToo
    · cases foundToo
    · exact tracks.positive otherName otherEntry foundToo
  · intro other
    rw [reserved, Finset.mem_erase]
    by_cases same : other = index
    · rw [same, Function.update_self, left]
      simp
    · rw [Function.update_of_ne same, tracks.reserved]
      simp [same]

end Table

/-! ## The calls -/

section Calls

variable {phases : Nat → Phase} {pendings after : List Pending}

/-- What is still to be queued is what the phases say. -/
structure CallsTrack (phases : Nat → Phase) (pendings : List Pending) :
    Prop where
  mem : ∀ pending, pending ∈ pendings ↔
    ∃ index, pending ∈ (phases index).calls index
  nodup : pendings.Nodup

theorem CallsTrack.mem_iff (tracks : CallsTrack phases pendings)
    {pending : Pending} {index : Nat} (isId : pending.streamId = index + 1) :
    pending ∈ pendings ↔ pending ∈ (phases index).calls index := by
  rw [tracks.mem]
  constructor
  · rintro ⟨other, isCall⟩
    have isOther := Phase.streamId_of_mem isCall
    have same : other = index := by omega
    rw [same] at isCall
    exact isCall
  · intro isCall
    exact ⟨index, isCall⟩

theorem CallsTrack.update (tracks : CallsTrack phases pendings)
    {index : Nat} {new : Phase} (nodup : after.Nodup)
    (others : ∀ pending : Pending, pending.streamId ≠ index + 1 →
      (pending ∈ after ↔ pending ∈ pendings))
    (own : ∀ pending : Pending, pending.streamId = index + 1 →
      (pending ∈ after ↔ pending ∈ new.calls index)) :
    CallsTrack (Function.update phases index new) after := by
  refine ⟨?_, nodup⟩
  intro pending
  by_cases isId : pending.streamId = index + 1
  · rw [own pending isId]
    constructor
    · intro isCall
      refine ⟨index, ?_⟩
      rw [Function.update_self]
      exact isCall
    · rintro ⟨other, isCall⟩
      have isOther := Phase.streamId_of_mem isCall
      have same : other = index := by omega
      rw [same, Function.update_self] at isCall
      exact isCall
  · rw [others pending isId, tracks.mem]
    apply exists_congr
    intro other
    by_cases same : other = index
    · rw [same, Function.update_self]
      constructor
      · intro isCall
        exact absurd (Phase.streamId_of_mem isCall) isId
      · intro isCall
        exact absurd (Phase.streamId_of_mem isCall) isId
    · rw [Function.update_of_ne same]

theorem CallsTrack.cons (tracks : CallsTrack phases pendings) {index : Nat}
    {new : Phase} {added : Pending} (isId : added.streamId = index + 1)
    (isNew : added ∉ (phases index).calls index)
    (adds : ∀ pending, pending ∈ new.calls index ↔
      pending = added ∨ pending ∈ (phases index).calls index) :
    CallsTrack (Function.update phases index new) (added :: pendings) := by
  apply tracks.update
  · rw [← tracks.mem_iff isId] at isNew
    exact List.nodup_cons.mpr ⟨isNew, tracks.nodup⟩
  · intro pending isOther
    have differs : pending ≠ added := by
      intro same
      rw [same] at isOther
      exact isOther isId
    rw [List.mem_cons]
    simp [differs]
  · intro pending isOwn
    rw [List.mem_cons, adds, tracks.mem_iff isOwn]

theorem CallsTrack.erase (tracks : CallsTrack phases pendings) {index : Nat}
    {new : Phase} {removed : Pending}
    (isCall : removed ∈ (phases index).calls index)
    (removes : ∀ pending, pending ∈ new.calls index ↔
      pending ≠ removed ∧ pending ∈ (phases index).calls index) :
    CallsTrack (Function.update phases index new)
      (pendings.erase removed) := by
  apply tracks.update
  · exact tracks.nodup.erase removed
  · intro pending isOther
    have differs : pending ≠ removed := by
      intro same
      rw [same] at isOther
      exact isOther (Phase.streamId_of_mem isCall)
    exact List.mem_erase_of_ne differs
  · intro pending isOwn
    rw [tracks.nodup.mem_erase_iff, removes, tracks.mem_iff isOwn]

end Calls

/-! ## The invariant -/

namespace State

variable {phases : Nat → Phase} {s after : State} {streamName : JavaString}

structure Tracks (phases : Nat → Phase) (s : State) : Prop where
  table : TableTracks phases s.idLookupTable
  calls : CallsTrack phases s.calls
  plain : ∀ index name, (phases index).entry = some name → 63 ∉ name
  streams : ∀ index, s.drained.at_ index = (phases index).stream
  reservedBy : ∀ call, .publish call ∈ s.calls →
    s.drained.reservedBy call = some call.newStreamId

structure Inv (s : State) : Prop where
  tidy : s.connection.Tidy
  ready : s.connection.QueueReady s.queue
  ownIds : s.OwnIds
  tracked : ∃ phases, Tracks phases s

theorem Inv.drained_tidy (inv : s.Inv) : s.drained.Tidy :=
  inv.tidy.handleQueue inv.ready

/-- Queueing a message whose time has come changes what is left of the calls
and the connection to come. -/
theorem Inv.queue (inv : s.Inv) {task : Task} {calls : List Pending}
    (ready : s.drained.Ready task)
    (tracked : ∃ phases, Tracks phases
      { s with calls := calls, queue := s.queue ++ [task] }) :
    Inv { s with calls := calls, queue := s.queue ++ [task] } where
  tidy := inv.tidy
  ready := inv.ready.append ready
  ownIds := inv.ownIds
  tracked := tracked

theorem drained_queue (s : State) (task : Task) (calls : List Pending) :
    State.drained { s with calls := calls, queue := s.queue ++ [task] } =
      s.drained.handle task := by
  rw [drained, List.foldl_append]
  rfl

/-! ### The table -/

theorem Tracks.plain_update (tracks : s.Tracks phases) {index : Nat}
    {new : Phase}
    (plain : ∀ name, new.entry = some name → 63 ∉ name) (other : Nat)
    (name : JavaString)
    (isEntry : (Function.update phases index new other).entry = some name) :
    63 ∉ name := by
  by_cases same : other = index
  · rw [same, Function.update_self] at isEntry
    exact plain name isEntry
  · rw [Function.update_of_ne same] at isEntry
    exact tracks.plain other name isEntry

theorem streams_update {drained : Connection} {index : Nat} {new : Phase}
    (others : ∀ other, other ≠ index →
      drained.at_ other = (phases other).stream)
    (own : drained.at_ index = new.stream) (other : Nat) :
    drained.at_ other = (Function.update phases index new other).stream := by
  by_cases same : other = index
  · rw [same, Function.update_self, own]
  · rw [Function.update_of_ne same, others other same]

/-- A task changes the stream of one index, and the phase of that index is
changed with it. -/
theorem Tracks.streams_handled (tracks : s.Tracks phases) {task : Task}
    {index : Nat} {new : Phase} {changed : Option (Option JavaString)}
    (handled : (s.drained.handle task).at_ =
      Function.update s.drained.at_ index changed)
    (own : changed = new.stream) (calls : List Pending) (other : Nat) :
    (State.drained { s with
        calls := calls, queue := s.queue ++ [task] }).at_ other =
      (Function.update phases index new other).stream := by
  rw [drained_queue]
  apply streams_update
  · intro another differs
    rw [handled, Function.update_of_ne differs, tracks.streams]
  · rw [handled, Function.update_self, own]

/-- A name enters the table on an index that is free or that is still to
leave the connection. -/
theorem Tracks.createNewEntry (tracks : s.Tracks phases)
    (plain : 63 ∉ streamName)
    (isNew : s.idLookupTable.entryOf streamName = none) (op : Nat) :
    ∃ phases, Tracks phases
      { s with
        idLookupTable := (s.idLookupTable.createNewEntry streamName).2
        calls := .createStream
          (.on (lowestClear s.idLookupTable.reservedStreams) op streamName) ::
            s.calls
        nextOp := s.nextOp + 1 } := by
  generalize isIndex : lowestClear s.idLookupTable.reservedStreams = index
  have free := tracks.table.free
  rw [isIndex] at free
  have enters : ∀ new : Phase, new.entry = some streamName →
      new.stream = (phases index).stream →
      .createStream (.on index op streamName) ∉ (phases index).calls index →
      (∀ pending, pending ∈ new.calls index ↔
        pending = .createStream (.on index op streamName) ∨
          pending ∈ (phases index).calls index) →
      Tracks (Function.update phases index new)
        { s with
          idLookupTable := (s.idLookupTable.createNewEntry streamName).2
          calls := .createStream (.on index op streamName) :: s.calls
          nextOp := s.nextOp + 1 } := by
    intro new isEntry sameStream isNewCall adds
    have table := tracks.table.createNewEntry isNew isEntry
    rw [isIndex] at table
    refine ⟨table, ?_, ?_, ?_, ?_⟩
    · exact tracks.calls.cons rfl isNewCall adds
    · apply tracks.plain_update
      intro name isName
      rw [isEntry] at isName
      cases isName
      exact plain
    · apply streams_update
      · intro other _
        exact tracks.streams other
      · rw [sameStream]
        exact tracks.streams index
    · intro call isCall
      rw [List.mem_cons] at isCall
      rcases isCall with isCreate | isOld
      · cases isCreate
      · exact tracks.reservedBy call isOld
  cases phase : phases index with
  | free =>
      rw [phase] at enters
      refine ⟨_, enters (.entered op streamName) rfl rfl ?_ ?_⟩
      · simp [Phase.calls]
      · simp [Phase.calls]
  | leaving oldName =>
      rw [phase] at enters
      refine ⟨_, enters (.reentered oldName op streamName) rfl rfl ?_ ?_⟩
      · simp [Phase.calls]
      · simp [Phase.calls, or_comm]
  | _ =>
      rw [phase] at free
      cases free

theorem Inv.createNewEntry (inv : s.Inv)
    (acted : s.act (.createNewEntry streamName) = .ok after) : after.Inv := by
  simp only [act] at acted
  split at acted
  · cases acted
  · rename_i admitted
    rw [not_or, Option.not_isSome_iff_eq_none] at admitted
    obtain ⟨plain, isNew⟩ := admitted
    obtain ⟨phases, tracks⟩ := inv.tracked
    have tracked := tracks.createNewEntry plain isNew s.nextOp
    have isId : (s.idLookupTable.createNewEntry streamName).1 =
        lowestClear s.idLookupTable.reservedStreams + 1 := by
      change (lowestClear (s.idLookupTable.reserveMixerId
        streamName).2.reservedStreams : Int) + 1 = _
      rw [IdLookup.reserveMixerId_snd]
    rw [CreateCall.on, ← isId] at tracked
    cases acted
    exact ⟨inv.tidy, inv.ready, inv.ownIds, tracked⟩

theorem creating_of_createStream {call : CreateCall}
    (isCall : .createStream call ∈ s.calls) :
    s.creating call.streamName = true :=
  List.any_eq_true.mpr ⟨_, isCall, decide_eq_true rfl⟩

theorem creating_of_publish {call : CreateCall}
    (isCall : .publish call ∈ s.calls) :
    s.creating call.streamName = true :=
  List.any_eq_true.mpr ⟨_, isCall, decide_eq_true rfl⟩

/-- A creation is not over while one of its calls is still to come. -/
theorem Tracks.creating (tracks : s.Tracks phases) (index op : Nat)
    (isCall : .createStream (.on index op streamName) ∈
        (phases index).calls index ∨
      .publish (.on index op streamName) ∈ (phases index).calls index) :
    s.creating streamName = true := by
  rcases isCall with isCreate | isPublish
  · exact creating_of_createStream
      ((tracks.calls.mem _).mpr ⟨index, isCreate⟩)
  · exact creating_of_publish ((tracks.calls.mem _).mpr ⟨index, isPublish⟩)

/-- An entry whose creation is over is published. -/
theorem Tracks.published (tracks : s.Tracks phases) {index : Nat}
    (isEntry : (phases index).entry = some streamName)
    (isOver : s.creating streamName = false) :
    phases index = .published streamName := by
  cases phase : phases index with
  | free =>
      rw [phase] at isEntry
      cases isEntry
  | entered op name =>
      rw [phase] at isEntry
      cases isEntry
      have creating : s.creating streamName = true :=
        tracks.creating index op (.inl (by simp [phase, Phase.calls]))
      rw [isOver] at creating
      cases creating
  | reserved op name =>
      rw [phase] at isEntry
      cases isEntry
      have creating : s.creating streamName = true :=
        tracks.creating index op (.inr (by simp [phase, Phase.calls]))
      rw [isOver] at creating
      cases creating
  | published name =>
      rw [phase] at isEntry
      cases isEntry
      rfl
  | leaving oldName =>
      rw [phase] at isEntry
      cases isEntry
  | reentered oldName op name =>
      rw [phase] at isEntry
      cases isEntry
      have creating : s.creating streamName = true :=
        tracks.creating index op (.inl (by simp [phase, Phase.calls]))
      rw [isOver] at creating
      cases creating

theorem Tracks.deleteEntry (tracks : s.Tracks phases) {index : Nat}
    (published : phases index = .published streamName) :
    Tracks (Function.update phases index (.leaving streamName))
      { s with
        idLookupTable := (s.idLookupTable.deleteEntry streamName).2
        calls := .deleteStream (index + 1) :: s.calls } := by
  have isEntry : (phases index).entry = some streamName := by
    rw [published]
    rfl
  refine ⟨(tracks.table.deleteEntry isEntry rfl).2, ?_, ?_, ?_, ?_⟩
  · apply tracks.calls.cons rfl
    · simp [published, Phase.calls]
    · simp [published, Phase.calls]
  · apply tracks.plain_update
    intro name isName
    cases isName
  · apply streams_update
    · intro other _
      exact tracks.streams other
    · have same := tracks.streams index
      rw [published] at same
      exact same
  · intro call isCall
    rw [List.mem_cons] at isCall
    rcases isCall with isDelete | isOld
    · cases isDelete
    · exact tracks.reservedBy call isOld

theorem Inv.deleteEntry (inv : s.Inv)
    (acted : s.act (.deleteEntry streamName) = .ok after) : after.Inv := by
  simp only [act] at acted
  split at acted
  · cases acted
  · rename_i isOver
    rw [Bool.not_eq_true] at isOver
    obtain ⟨phases, tracks⟩ := inv.tracked
    cases known : s.idLookupTable.entryOf streamName with
    | none =>
        have unchanged := IdLookup.deleteEntry_of_none known
        have isMissing : (s.idLookupTable.deleteEntry streamName).1 = -1 := by
          rw [IdLookup.entryOf] at known
          rw [IdLookup.deleteEntry, known]
        rw [isMissing, unchanged] at acted
        cases acted
        exact inv
    | some entry =>
        obtain ⟨index, isId⟩ := tracks.table.positive _ _ known
        have isEntry := (tracks.table.entries index streamName).mpr
          ⟨entry, known, isId⟩
        have tracked := tracks.deleteEntry (tracks.published isEntry isOver)
        have deleted := (tracks.table.deleteEntry isEntry
          (show Phase.free.entry = none from rfl)).1
        rw [deleted, if_pos (by omega)] at acted
        cases acted
        exact ⟨inv.tidy, inv.ready, inv.ownIds, _, tracked⟩

/-! ### The queue -/

/-- The call whose `createStream` comes in time has an index that the
connection has free. -/
theorem Inv.entered (inv : s.Inv) (tracks : s.Tracks phases)
    {call : CreateCall} (isCall : .createStream call ∈ s.calls)
    (inTime : call.newStreamId = lowestClear s.drained.reservedStreams + 1) :
    ∃ op streamName, call =
        .on (lowestClear s.drained.reservedStreams) op streamName ∧
      phases (lowestClear s.drained.reservedStreams) =
        .entered op streamName := by
  have isId : (Pending.createStream call).streamId =
      lowestClear s.drained.reservedStreams + 1 := inTime
  have isOwn := (tracks.calls.mem_iff isId).mp isCall
  obtain ⟨op, streamName, isOn, phase⟩ := Phase.createStream_mem isOwn
  refine ⟨op, streamName, isOn, ?_⟩
  rcases phase with entered | ⟨oldName, reentered⟩
  · exact entered
  · have free := inv.drained_tidy.not_mem_iff.mp
      (lowestClear_not_mem s.drained.reservedStreams)
    rw [tracks.streams, reentered] at free
    cases free

theorem Inv.queueCreateStream (inv : s.Inv) {call : CreateCall}
    (inTime : s.InTime (.queueCreateStream call))
    (acted : s.act (.queueCreateStream call) = .ok after) : after.Inv := by
  simp only [act] at acted
  split at acted
  · rename_i isCall
    cases acted
    obtain ⟨phases, tracks⟩ := inv.tracked
    have ready : s.drained.Ready (.createStream call) := inTime
    apply inv.queue ready
    obtain ⟨op, streamName, isOn, entered⟩ := inv.entered tracks isCall inTime
    have handled := (inv.drained_tidy.createStream call).2
    have reservedBy := (@Connection.handle_createStream s.drained call).2.2
    generalize lowestClear s.drained.reservedStreams = index at *
    have isEntry : (phases index).entry = some streamName := by
      rw [entered]
      rfl
    refine ⟨Function.update phases index (.reserved op streamName),
      ?_, ?_, ?_, ?_, ?_⟩
    · apply tracks.table.of_entry_eq
      rw [isEntry]
      rfl
    · have isOwn : Pending.createStream call ∈ (phases index).calls index := by
        rw [entered, isOn]
        exact List.mem_singleton_self _
      have erased : CallsTrack (Function.update phases index .free)
          (s.calls.erase (.createStream call)) := by
        apply tracks.calls.erase isOwn
        simp [entered, Phase.calls, isOn]
      have queued : CallsTrack
          (Function.update (Function.update phases index .free) index
            (.reserved op streamName))
          (.publish call :: s.calls.erase (.createStream call)) := by
        rw [isOn] at erased ⊢
        apply erased.cons rfl
        · simp [Phase.calls]
        · simp [Phase.calls]
      rw [Function.update_idem] at queued
      exact queued
    · apply tracks.plain_update
      intro name isName
      cases isName
      exact tracks.plain index _ isEntry
    · exact tracks.streams_handled handled rfl _
    · intro other isOther
      rw [drained_queue, reservedBy]
      by_cases same : other = call
      · rw [same, Function.update_self, isOn]
        rfl
      · rw [Function.update_of_ne same]
        apply tracks.reservedBy
        rw [List.mem_cons] at isOther
        rcases isOther with isCreated | isOld
        · exact absurd (Pending.publish.inj isCreated) same
        · exact List.mem_of_mem_erase isOld
  · cases acted

theorem Inv.queuePublish (inv : s.Inv) {call : CreateCall}
    (inTime : s.InTime (.queuePublish call))
    (acted : s.act (.queuePublish call) = .ok after) : after.Inv := by
  simp only [act] at acted
  split at acted
  · rename_i isCall
    cases acted
    obtain ⟨phases, tracks⟩ := inv.tracked
    obtain ⟨index, isOwn⟩ := (tracks.calls.mem _).mp isCall
    obtain ⟨op, streamName, isOn, reserved⟩ := Phase.publish_mem isOwn
    have isId : call.newStreamId = index + 1 := by
      rw [isOn]
      rfl
    have isName : call.streamName = streamName := by
      rw [isOn]
      rfl
    have isEntry : (phases index).entry = some call.streamName := by
      rw [reserved, isName]
      rfl
    have plain := tracks.plain index _ isEntry
    have isReserved : s.drained.at_ index = some none := by
      rw [tracks.streams, reserved]
      rfl
    have ready : s.drained.Ready (.publish call) :=
      ⟨tracks.reservedBy call isCall, plain, inTime, index, isId, isReserved⟩
    apply inv.queue ready
    have handled :=
      (inv.drained_tidy.publish isId plain inTime isReserved).2
    have reservedBy := (Connection.handle_publish inv.drained_tidy isId plain
      inTime isReserved).2.2
    refine ⟨Function.update phases index (.published call.streamName),
      ?_, ?_, ?_, ?_, ?_⟩
    · apply tracks.table.of_entry_eq
      rw [isEntry]
      rfl
    · apply tracks.calls.erase isOwn
      simp [reserved, Phase.calls, isOn]
    · apply tracks.plain_update
      intro name isOther
      cases isOther
      exact plain
    · exact tracks.streams_handled handled rfl _
    · intro other isOther
      rw [drained_queue, reservedBy]
      exact tracks.reservedBy other (List.mem_of_mem_erase isOther)
  · cases acted

/-- A name leaves the connection: its index is free, or is the one of the name
that has entered the table since. -/
theorem Tracks.queueDeleteStream (tracks : s.Tracks phases)
    (tidy : s.drained.Tidy) {index : Nat} {new : Phase} {oldName : JavaString}
    (isOwn : .deleteStream (index + 1) ∈ (phases index).calls index)
    (published : (phases index).stream = some (some oldName))
    (sameEntry : new.entry = (phases index).entry) (left : new.stream = none)
    (removes : ∀ pending, pending ∈ new.calls index ↔
      pending ≠ .deleteStream (index + 1) ∧
        pending ∈ (phases index).calls index) :
    Tracks (Function.update phases index new)
      { s with
        calls := s.calls.erase (.deleteStream (index + 1))
        queue := s.queue ++ [.deleteStream (index + 1)] } := by
  have isPublished : s.drained.at_ index = some (some oldName) := by
    rw [tracks.streams, published]
  have handled := (tidy.deleteStream isPublished).2
  have reservedBy :=
    (Connection.handle_deleteStream tidy isPublished).2.2
  refine ⟨?_, ?_, ?_, ?_, ?_⟩
  · exact tracks.table.of_entry_eq sameEntry
  · exact tracks.calls.erase isOwn removes
  · apply tracks.plain_update
    intro name isName
    rw [sameEntry] at isName
    exact tracks.plain index name isName
  · exact tracks.streams_handled handled left.symm _
  · intro call isCall
    rw [drained_queue, reservedBy]
    exact tracks.reservedBy call (List.mem_of_mem_erase isCall)

theorem Inv.queueDeleteStream (inv : s.Inv) {streamId : Int}
    (acted : s.act (.queueDeleteStream streamId) = .ok after) :
    after.Inv := by
  simp only [act] at acted
  split at acted
  · rename_i isCall
    cases acted
    obtain ⟨phases, tracks⟩ := inv.tracked
    obtain ⟨index, isOwn⟩ := (tracks.calls.mem _).mp isCall
    obtain ⟨isId, oldName, phase⟩ := Phase.deleteStream_mem isOwn
    rw [isId] at isOwn ⊢
    have published : (phases index).stream =
        some (some (mixedName oldName)) := by
      rcases phase with leaving | ⟨op, streamName, reentered⟩
      · rw [leaving]
        rfl
      · rw [reentered]
        rfl
    have isPublished := tracks.streams index
    rw [published] at isPublished
    have ready : s.drained.Ready (.deleteStream (index + 1)) :=
      ⟨index, _, rfl, isPublished⟩
    apply inv.queue ready
    rcases phase with leaving | ⟨op, streamName, reentered⟩
    · refine ⟨Function.update phases index .free,
        tracks.queueDeleteStream inv.drained_tidy isOwn published ?_ rfl ?_⟩
      · rw [leaving]
        rfl
      · simp [leaving, Phase.calls]
    · refine ⟨Function.update phases index (.entered op streamName),
        tracks.queueDeleteStream inv.drained_tidy isOwn published ?_ rfl ?_⟩
      · rw [reentered]
        rfl
      · intro pending
        simp only [reentered, Phase.calls, List.mem_singleton, List.mem_pair]
        constructor
        · intro isCreate
          rw [isCreate]
          simp
        · rintro ⟨differs, isDelete | isCreate⟩
          · exact absurd isDelete differs
          · exact isCreate
  · cases acted

/-! ### The connection -/

theorem Inv.handle (inv : s.Inv) (acted : s.act .handle = .ok after) :
    after.Inv := by
  simp only [act] at acted
  split at acted
  · rename_i task rest isQueue
    cases acted
    have ready := inv.ready
    rw [isQueue] at ready
    obtain ⟨phases, tracks⟩ := inv.tracked
    have same : State.drained
        { s with queue := rest, connection := s.connection.handle task } =
          s.drained := by
      rw [drained, drained, isQueue]
      rfl
    refine ⟨inv.tidy.handle ready.1, ready.2, ?_, phases, tracks.table,
      tracks.calls, tracks.plain, ?_, ?_⟩
    · intro call isPublished
      cases task with
      | createStream created =>
          have reserved := inv.ownIds call isPublished
          have reservedBy :=
            (@Connection.handle_createStream s.connection created).2.2
          rw [reservedBy]
          by_cases isCreated : call = created
          · rw [isCreated, Function.update_self, ← ready.1]
          · rw [Function.update_of_ne isCreated]
            exact reserved
      | publish published =>
          rcases List.mem_cons.mp isPublished with isNew | isOld
          · rw [isNew]
            exact ready.1.1
          · exact inv.ownIds call isOld
      | deleteStream streamId => exact inv.ownIds call isPublished
    · intro index
      rw [same]
      exact tracks.streams index
    · intro call isCall
      rw [same]
      exact tracks.reservedBy call isCall
  · cases acted

theorem Inv.act {step : Step} (inv : s.Inv) (inTime : s.InTime step)
    (acted : s.act step = .ok after) : after.Inv := by
  cases step with
  | createNewEntry streamName => exact inv.createNewEntry acted
  | deleteEntry streamName => exact inv.deleteEntry acted
  | queueCreateStream call => exact inv.queueCreateStream inTime acted
  | queuePublish call => exact inv.queuePublish inTime acted
  | queueDeleteStream streamId => exact inv.queueDeleteStream acted
  | handle => exact inv.handle acted

theorem inv_start : Inv {} where
  tidy := by
    intro index stream found
    cases found
  ready := trivial
  ownIds := by
    intro call isPublished
    cases isPublished
  tracked := by
    refine ⟨fun _ => .free, ⟨?_, ?_, ?_⟩, ⟨?_, List.nodup_nil⟩, ?_, ?_, ?_⟩
    · intro index name
      constructor
      · intro isEntry
        cases isEntry
      · rintro ⟨entry, found, -⟩
        cases found
    · intro name entry found
      cases found
    · intro index
      simp [Phase.entry]
    · intro pending
      simp [Phase.calls]
    · intro index name isEntry
      cases isEntry
    · intro index
      rfl
    · intro call isCall
      cases isCall

/-! ## The two allocators -/

theorem Tracks.quiet (tracks : s.Tracks phases) (noCalls : s.calls = [])
    {index : Nat} {pending : Pending} :
    pending ∉ (phases index).calls index := by
  intro isCall
  have isPending := (tracks.calls.mem pending).mpr ⟨index, isCall⟩
  rw [noCalls] at isPending
  cases isPending

theorem Inv.agrees (inv : s.Inv) (noCalls : s.calls = [])
    (noQueue : s.queue = []) : s.Agrees := by
  obtain ⟨phases, tracks⟩ := inv.tracked
  have isDrained : s.drained = s.connection := by
    rw [drained, noQueue]
    rfl
  have streams := tracks.streams
  rw [isDrained] at streams
  have isOver : ∀ name, s.creating name = false := by
    intro name
    rw [creating, noCalls]
    rfl
  constructor
  · intro streamName entry found
    obtain ⟨index, isId⟩ := tracks.table.positive _ _ found
    have isEntry := (tracks.table.entries index streamName).mpr
      ⟨entry, found, isId⟩
    have published := tracks.published isEntry (isOver streamName)
    have isName := streams index
    rw [published] at isName
    obtain ⟨bs, isStream, isPublished, isLive⟩ :=
      inv.tidy.at_eq_some_some isName
    exact ⟨index, bs, isId, isStream, isPublished, isLive⟩
  · intro index noEntry
    have isFree : (phases index).stream = none := by
      cases phase : phases index with
      | free => rfl
      | entered op streamName => rfl
      | leaving oldName =>
          have isCall :
              .deleteStream (index + 1) ∈ (phases index).calls index := by
            rw [phase]
            exact List.mem_singleton_self _
          exact absurd isCall (tracks.quiet noCalls)
      | _ =>
          exfalso
          have isEntry : ∃ name, (phases index).entry = some name := by
            rw [phase]
            exact ⟨_, rfl⟩
          obtain ⟨name, isEntry⟩ := isEntry
          obtain ⟨entry, found, isId⟩ :=
            (tracks.table.entries index name).mp isEntry
          exact noEntry name entry found isId
    have isNone := streams index
    rw [isFree] at isNone
    obtain ⟨missing, clear⟩ := inv.tidy.at_eq_none.mp isNone
    exact ⟨clear, missing⟩

end State

/-- In a run in which every message that creates or publishes is queued in
time, the connection publishes every name on the id that the table has given
it, and without anything pending the two allocators agree. -/
theorem allocators_agree {steps : List Step} {final : State}
    (reached : run State.act {} steps = .ok final)
    (inTime : EveryStep State.act State.InTime {} steps) :
    final.AllocatorsAgree := by
  have inv : final.Inv := by
    apply run_invariant_of_everyStep State.Inv ?_ State.inv_start inTime
      reached
    intro s step next known inTimeHere acted
    exact known.act inTimeHere acted
  exact ⟨inv.ownIds, inv.agrees⟩

/-- A second name is created while the first one is queued, and a third takes
the index of the first one before the connection has deleted its stream. -/
def queuedInOrder : List Step :=
  [.createNewEntry [97], .queueCreateStream ⟨0, [97], 1⟩,
    .createNewEntry [98], .queueCreateStream ⟨1, [98], 2⟩,
    .queuePublish ⟨1, [98], 2⟩, .handle, .queuePublish ⟨0, [97], 1⟩, .handle,
    .deleteEntry [97], .createNewEntry [99], .queueDeleteStream 1,
    .queueCreateStream ⟨2, [99], 1⟩, .queuePublish ⟨2, [99], 1⟩, .handle,
    .handle, .handle, .handle, .handle]

theorem allocators_agree_queuedInOrder :
    ∃ final, run State.act {} queuedInOrder = .ok final ∧
      final.calls = [] ∧ final.queue = [] ∧ final.AllocatorsAgree := by
  have ends : (run State.act {} queuedInOrder).map
      (fun s => (s.calls, s.queue)) = .ok ([], []) := by
    decide +kernel
  obtain ⟨final, reached, isEnd⟩ := map_ok.mp ends
  obtain ⟨noCalls, noQueue⟩ := Prod.mk.inj isEnd
  refine ⟨final, reached, noCalls, noQueue, ?_⟩
  exact allocators_agree reached (by decide +kernel)

/-- Two threads create a name each; the one that was second at the table is
first at the queue. -/
def queuedOutOfOrder : List Step :=
  [.createNewEntry [97], .createNewEntry [98],
    .queueCreateStream ⟨1, [98], 2⟩, .queuePublish ⟨1, [98], 2⟩,
    .queueCreateStream ⟨0, [97], 1⟩, .queuePublish ⟨0, [97], 1⟩,
    .handle, .handle, .handle, .handle]

/-- The second name is to be published on an id that its own `createStream`
has not reserved, and is not published at all. -/
theorem allocators_disagree :
    ∃ final, run State.act {} queuedOutOfOrder = .ok final ∧
      ¬ final.OwnIds ∧
      final.calls = [] ∧ final.queue = [] ∧ ¬ final.Agrees := by
  have ends : (run State.act {} queuedOutOfOrder).map
      (fun s => ((s.calls, s.queue),
        (s.connection.publishedBy, s.connection.reservedBy ⟨1, [98], 2⟩),
        ((s.idLookupTable.groupMappingTable.lookup [98]).map
          GroupMappingTableEntry.streamId, s.connection.streams.lookup 1))) =
      .ok (([], []), ([⟨0, [97], 1⟩, ⟨1, [98], 2⟩], some 1),
        (some 2, none)) := by
    decide +kernel
  obtain ⟨final, reached, isEnd⟩ := map_ok.mp ends
  rw [Prod.mk.injEq, Prod.mk.injEq, Prod.mk.injEq, Prod.mk.injEq,
    Prod.mk.injEq] at isEnd
  obtain ⟨⟨noCalls, noQueue⟩, ⟨isPublished, isReserved⟩, isEntry, missing⟩ :=
    isEnd
  refine ⟨final, reached, ?_, noCalls, noQueue, ?_⟩
  · intro ownIds
    have own := ownIds ⟨1, [98], 2⟩ (by
      rw [isPublished]
      decide)
    rw [isReserved] at own
    cases own
  · rintro ⟨designates, -⟩
    obtain ⟨entry, found, isId⟩ := Option.map_eq_some_iff.mp isEntry
    obtain ⟨index, bs, isIndex, isStream, -⟩ := designates [98] entry found
    have position : index = 1 := by omega
    rw [position, missing] at isStream
    cases isStream

end AllInOne

end GroupVoip
