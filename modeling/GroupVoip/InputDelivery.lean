import GroupVoip.InputPath

/-!
# What the mixcoder gets of a stream

As long as a stream stays in the table, its slot gets its messages: all that
are queued, in the order in which they were pushed, and no other ones, however
the other streams come and go and wherever the pipe cuts the bytes.
-/

namespace GroupVoip

open Library.Runs Library.WireBytes

/-! ## The table -/

def IdCall.streamName : IdCall → JavaString
  | .createNewEntry streamName => streamName
  | .deleteEntry streamName => streamName

namespace IdLookup

/-- A create leaves a mixer id over. -/
def LeavesRoom (t : IdLookup) : IdCall → Prop
  | .createNewEntry _ => t.mixedStreams + 1 < MAX_STREAM_COUNT
  | .deleteEntry _ => True

instance (t : IdLookup) : ∀ call, Decidable (t.LeavesRoom call)
  | .createNewEntry _ => inferInstanceAs (Decidable (_ < _))
  | .deleteEntry _ => isTrue trivial

variable {t after : IdLookup} {call : IdCall} {name : JavaString}

theorem Counts.mixedStreams_step {besides : Int} (counts : t.Counts besides)
    (mixes : t.Mixes call) (room : t.LeavesRoom call)
    (few : t.mixedStreams < MAX_STREAM_COUNT)
    (stepped : t.step call = .ok after) :
    after.mixedStreams < MAX_STREAM_COUNT := by
  cases call with
  | createNewEntry created =>
      cases stepped
      obtain ⟨notTaken, isNew, _⟩ := mixes
      rw [mixedStreams_create (creates t created) isNew, if_neg notTaken]
      exact room
  | deleteEntry deleted =>
      cases stepped
      cases known : t.entryOf deleted with
      | none =>
          rw [deleteEntry_of_none known]
          exact few
      | some entry =>
          have fewer := mixedStreams_delete (counts.regular.deletes known)
            known mixes
          omega

theorem entryOf_step (stepped : t.step call = .ok after)
    (other : call.streamName ≠ name) :
    after.entryOf name = t.entryOf name := by
  cases call with
  | createNewEntry created =>
      cases stepped
      exact (creates t created).entryOf_ne other.symm
  | deleteEntry deleted =>
      cases stepped
      have apart : name ≠ deleted := Ne.symm other
      rw [entryOf_deleteEntry, if_neg apart]

end IdLookup

namespace InputPath

variable {s t : InputPath} {a : Step}

/-! ## Steps -/

/-- Streams that are not reserved come and go, 31 at a time at most, push
ordinary messages, and no write fails. -/
def Admits (s : InputPath) : Step → Prop
  | .table call => s.idLookupTable.Mixes call ∧ s.idLookupTable.LeavesRoom call
  | .pushInputMessage streamName input =>
      PushedInput.Ordinary ⟨streamName, input⟩
  | .ioFailed => False
  | .notify | .writer | .close | .spuriousWakeup => True

instance (s : InputPath) : ∀ a, Decidable (s.Admits a)
  | .table _ => inferInstanceAs (Decidable (_ ∧ _))
  | .pushInputMessage _ _ =>
      inferInstanceAs (Decidable (PushedInput.Ordinary _))
  | .ioFailed => isFalse id
  | .notify | .writer | .close | .spuriousWakeup => isTrue trivial

/-- An empty message is not queued. -/
def pushedBy : List Step → List PushedInput :=
  List.filterMap fun
    | .pushInputMessage streamName input =>
        if 0 < input.flvFrame.length then some ⟨streamName, input⟩ else none
    | _ => none

theorem pushedBy_cons (a : Step) (rest : List Step) :
    pushedBy (a :: rest) = pushedBy [a] ++ pushedBy rest :=
  List.filterMap_append (l := [a])

def pending (s : InputPath) : List PushedInput :=
  s.mixerPipe.pending

/-- The messages of one stream. -/
def inputsOf (name : JavaString) (objects : List PushedInput) :
    List InputObject :=
  (objects.filter fun obj => obj.streamName = name).map PushedInput.input

theorem inputsOf_append (name : JavaString) (first second : List PushedInput) :
    inputsOf name (first ++ second) =
      inputsOf name first ++ inputsOf name second := by
  rw [inputsOf, List.filter_append, List.map_append, inputsOf, inputsOf]

def messagesOf (slot : Slot) (messages : List InputMessage) :
    List InputMessage :=
  messages.filter fun message => message.slot = slot

structure Sound (s : InputPath) : Prop where
  counts : s.idLookupTable.Counts 2
  few : s.idLookupTable.mixedStreams < MAX_STREAM_COUNT
  accounts : ∃ added, s.mixerPipe.Accounts added 0
  queued : ∀ obj ∈ s.pending, obj.Ordinary ∧ obj.input.flvFrame ≠ []
  sent : ∃ messages : List InputMessage,
    s.process = messages.map InputMessage.array

/-- A step hands some objects over, each as the message of the slot that its
name has at this time, or not at all if the name has none. -/
structure Moves (s t : InputPath) (pushed : List PushedInput)
    (handed : List PushedInput) (messages : List InputMessage) : Prop where
  process : t.process = s.process ++ messages.map InputMessage.array
  inOrder : s.pending ++ pushed = handed ++ t.pending
  addressed : ∀ name entry (slot : Slot),
    s.idLookupTable.entryOf name = some entry → entry.mixerId = slot.val →
      (messagesOf slot messages).map InputMessage.input = inputsOf name handed
  accounts : ∃ added, t.mixerPipe.Accounts added 0

theorem Moves.idle {pushed : List PushedInput}
    (process : t.process = s.process)
    (inOrder : s.pending ++ pushed = t.pending)
    (accounts : ∃ added, t.mixerPipe.Accounts added 0) :
    s.Moves t pushed [] [] where
  process := by
    rw [process]
    exact (List.append_nil _).symm
  inOrder := inOrder
  addressed := fun _ _ _ _ _ => rfl
  accounts := accounts

/-! ### The pipe -/

theorem pipeAct_ok {p : ProcessPipe.Step PushedInput} :
    s.pipeAct p = .ok t ↔ ∃ mixerPipe, s.mixerPipe.act p = .ok mixerPipe ∧
      { s with mixerPipe := mixerPipe } = t :=
  map_ok

/-- A step of the pipe alone that hands nothing over. -/
theorem Sound.moves_pipe (sound : s.Sound)
    {p : ProcessPipe.Step PushedInput} (intact : ProcessPipe.failures [p] = 0)
    (nothing : s.mixerPipe.handed p = []) (stepped : s.pipeAct p = .ok t) :
    s.Moves t (ProcessPipe.addedBy [p]) [] [] := by
  obtain ⟨mixerPipe, acted, same⟩ := pipeAct_ok.mp stepped
  obtain ⟨added, accounts⟩ := sound.accounts
  have kept := accounts.pending_act intact acted
  have later := accounts.act acted
  rw [nothing] at kept
  rw [intact] at later
  rw [← same]
  exact Moves.idle rfl kept ⟨_, later⟩

/-- The object in hand is handed over, next to what is written for it. -/
theorem Sound.moves_write (sound : s.Sound)
    (here : s.mixerPipe.writer = .write) {obj : PushedInput}
    (held : s.mixerPipe.removed = some obj) {messages : List InputMessage}
    (addressed : ∀ name entry (slot : Slot),
      s.idLookupTable.entryOf name = some entry → entry.mixerId = slot.val →
        (messagesOf slot messages).map InputMessage.input =
          inputsOf name [obj])
    (stepped : { s with
      process := s.process ++ messages.map InputMessage.array }.pipeAct
        .writer = .ok t) :
    s.Moves t [] [obj] messages := by
  obtain ⟨mixerPipe, acted, same⟩ := pipeAct_ok.mp stepped
  obtain ⟨added, accounts⟩ := sound.accounts
  have kept := accounts.pending_act rfl acted
  rw [ProcessPipe.State.handed, if_pos here, held] at kept
  rw [← same]
  exact ⟨rfl, kept, addressed, _, accounts.act acted⟩

theorem inputsOf_singleton (name : JavaString) (obj : PushedInput) :
    inputsOf name [obj] =
      if obj.streamName = name then [obj.input] else [] := by
  by_cases same : obj.streamName = name
  · simp [inputsOf, same]
  · simp [inputsOf, same]

theorem messagesOf_singleton (slot : Slot) (message : InputMessage) :
    messagesOf slot [message] =
      if message.slot = slot then [message] else [] := by
  by_cases same : message.slot = slot
  · simp [messagesOf, same]
  · simp [messagesOf, same]

/-- Two names have the same slot only if they are the same. -/
theorem Sound.addressed (sound : s.Sound) {obj : PushedInput}
    {message : InputMessage} (sameInput : message.input = obj.input)
    {entry : GroupMappingTableEntry}
    (isEntry : s.idLookupTable.entryOf obj.streamName = some entry)
    (isSlot : entry.mixerId = message.slot.val) {name : JavaString}
    {other : GroupMappingTableEntry} {slot : Slot}
    (isOther : s.idLookupTable.entryOf name = some other)
    (otherSlot : other.mixerId = slot.val) :
    (messagesOf slot [message]).map InputMessage.input =
      inputsOf name [obj] := by
  rw [messagesOf_singleton, inputsOf_singleton]
  by_cases same : obj.streamName = name
  · rw [same, isOther] at isEntry
    cases isEntry
    have sameSlot : message.slot = slot := by
      apply Fin.ext
      rw [isSlot] at otherSlot
      exact Int.ofNat_inj.mp otherSlot
    rw [if_pos same, if_pos sameSlot, List.map_singleton, sameInput]
  · have distinct := (sound.counts.regular.inStep.distinct _ _ _ _ isEntry
      isOther same).1
    have otherSlots : message.slot ≠ slot := by
      intro sameSlot
      rw [isSlot, otherSlot, sameSlot] at distinct
      exact distinct rfl
    rw [if_neg same, if_neg otherSlots, List.map_nil]

theorem Sound.moves_writeObject (sound : s.Sound)
    (here : s.mixerPipe.writer = .write) {obj : PushedInput}
    (held : s.mixerPipe.removed = some obj)
    (stepped : s.writeObject obj = .ok t) :
    ∃ messages, s.Moves t [] [obj] messages := by
  have isPending : obj ∈ s.pending := by
    rw [pending, ProcessPipe.State.pending, held]
    simp
  obtain ⟨ordinary, nonempty⟩ := sound.queued obj isPending
  rw [writeObject] at stepped
  cases known : s.idLookupTable.entryOf obj.streamName with
  | none =>
      rw [PushedInput.toByteBuffer_of_none known] at stepped
      refine ⟨[], sound.moves_write here held ?_ stepped⟩
      intro name entry slot isEntry _
      have apart : obj.streamName ≠ name := by
        intro same
        rw [same, isEntry] at known
        cases known
      rw [inputsOf_singleton, if_neg apart]
      rfl
  | some entry =>
      obtain ⟨message, sameInput, isSlot, filled⟩ :=
        PushedInput.exists_message sound.counts sound.few ordinary nonempty
          known
      have whole : ByteBuffer.array
          { capacity := message.array.length, written := message.array } =
            message.array := by
        simp [ByteBuffer.array]
      rw [filled] at stepped
      simp only [Option.map_some, whole, Option.toList_some] at stepped
      refine ⟨[message], sound.moves_write here held ?_ stepped⟩
      intro name other slot isOther otherSlot
      exact sound.addressed sameInput known isSlot isOther otherSlot

theorem Sound.moves_writerStep (sound : s.Sound)
    (stepped : s.writerStep = .ok t) :
    ∃ handed messages, s.Moves t [] handed messages := by
  rw [writerStep] at stepped
  by_cases here : s.mixerPipe.writer = .write
  · obtain ⟨added, accounts⟩ := sound.accounts
    obtain ⟨obj, held⟩ := Option.isSome_iff_exists.mp
      (accounts.inHand.mpr here)
    rw [if_pos here, held] at stepped
    exact ⟨[obj], sound.moves_writeObject here held stepped⟩
  · rw [if_neg here] at stepped
    have nothing : s.mixerPipe.handed .writer = [] := by
      rw [ProcessPipe.State.handed, if_neg here]
    exact ⟨[], [], sound.moves_pipe rfl nothing stepped⟩

theorem Sound.moves (sound : s.Sound) (admitted : s.Admits a)
    (stepped : s.act a = .ok t) :
    ∃ handed messages, s.Moves t (pushedBy [a]) handed messages := by
  cases a with
  | table call =>
      rw [act] at stepped
      cases called : s.idLookupTable.step call with
      | error stopped =>
          rw [called] at stepped
          cases stepped
      | ok after =>
          rw [called] at stepped
          cases stepped
          exact ⟨[], [], Moves.idle rfl (List.append_nil _) sound.accounts⟩
  | pushInputMessage streamName input =>
      rw [act] at stepped
      by_cases nonempty : 0 < input.flvFrame.length
      · rw [if_pos nonempty] at stepped
        have queued : pushedBy [.pushInputMessage streamName input] =
            ProcessPipe.addedBy [.add ⟨streamName, input⟩] := by
          simp [pushedBy, nonempty, ProcessPipe.addedBy]
        rw [queued]
        exact ⟨[], [], sound.moves_pipe rfl rfl stepped⟩
      · rw [if_neg nonempty] at stepped
        cases stepped
        have nothing : pushedBy [.pushInputMessage streamName input] = [] := by
          simp [pushedBy, nonempty]
        rw [nothing]
        exact ⟨[], [], Moves.idle rfl (List.append_nil _) sound.accounts⟩
  | notify => exact ⟨[], [], sound.moves_pipe rfl rfl stepped⟩
  | writer => exact sound.moves_writerStep stepped
  | ioFailed => exact admitted.elim
  | close => exact ⟨[], [], sound.moves_pipe rfl rfl stepped⟩
  | spuriousWakeup => exact ⟨[], [], sound.moves_pipe rfl rfl stepped⟩

/-! ### The invariant -/

theorem pipeAct_idLookupTable {p : ProcessPipe.Step PushedInput}
    (stepped : s.pipeAct p = .ok t) : t.idLookupTable = s.idLookupTable := by
  obtain ⟨mixerPipe, _, same⟩ := pipeAct_ok.mp stepped
  rw [← same]

theorem writerStep_idLookupTable (stepped : s.writerStep = .ok t) :
    t.idLookupTable = s.idLookupTable := by
  rw [writerStep] at stepped
  split at stepped
  · split at stepped
    · rw [writeObject] at stepped
      split at stepped
      · rw [pipeAct_idLookupTable stepped]
      · exact pipeAct_idLookupTable stepped
    · exact pipeAct_idLookupTable stepped
  · exact pipeAct_idLookupTable stepped

/-- The table is only changed by its calls. -/
theorem idLookupTable_act (stepped : s.act a = .ok t) :
    (∃ call, a = .table call ∧
      s.idLookupTable.step call = .ok t.idLookupTable) ∨
    t.idLookupTable = s.idLookupTable := by
  cases a with
  | table call =>
      left
      refine ⟨call, rfl, ?_⟩
      rw [act] at stepped
      cases called : s.idLookupTable.step call with
      | error stopped =>
          rw [called] at stepped
          cases stepped
      | ok after =>
          rw [called] at stepped
          cases stepped
          rfl
  | pushInputMessage streamName input =>
      right
      rw [act] at stepped
      split at stepped
      · exact pipeAct_idLookupTable stepped
      · cases stepped
        rfl
  | writer => exact .inr (writerStep_idLookupTable stepped)
  | notify => exact .inr (pipeAct_idLookupTable stepped)
  | ioFailed => exact .inr (pipeAct_idLookupTable stepped)
  | close => exact .inr (pipeAct_idLookupTable stepped)
  | spuriousWakeup => exact .inr (pipeAct_idLookupTable stepped)

theorem Sound.table (sound : s.Sound) (admitted : s.Admits a)
    (stepped : s.act a = .ok t) :
    t.idLookupTable.Counts 2 ∧
      t.idLookupTable.mixedStreams < MAX_STREAM_COUNT := by
  rcases idLookupTable_act stepped with ⟨call, isCall, called⟩ | same
  · rw [isCall] at admitted
    obtain ⟨mixes, room⟩ := admitted
    exact ⟨sound.counts.step mixes called,
      sound.counts.mixedStreams_step mixes room sound.few called⟩
  · rw [same]
    exact ⟨sound.counts, sound.few⟩

theorem ordinary_of_mem_pushedBy (admitted : s.Admits a) {obj : PushedInput}
    (member : obj ∈ pushedBy [a]) :
    obj.Ordinary ∧ obj.input.flvFrame ≠ [] := by
  cases a with
  | pushInputMessage streamName input =>
      by_cases nonempty : 0 < input.flvFrame.length
      · have isObj : obj = ⟨streamName, input⟩ := by
          simpa [pushedBy, nonempty] using member
        rw [isObj]
        exact ⟨admitted, List.length_pos_iff.mp nonempty⟩
      · simp [pushedBy, nonempty] at member
  | _ => simp [pushedBy] at member

theorem Sound.act (sound : s.Sound) (admitted : s.Admits a)
    (stepped : s.act a = .ok t) : t.Sound := by
  obtain ⟨handed, messages, moves⟩ := sound.moves admitted stepped
  obtain ⟨counts, few⟩ := sound.table admitted stepped
  refine ⟨counts, few, moves.accounts, ?_, ?_⟩
  · intro obj isPending
    have known : obj ∈ s.pending ++ pushedBy [a] := by
      rw [moves.inOrder]
      exact List.mem_append_right _ isPending
    rcases List.mem_append.mp known with before | pushed
    · exact sound.queued obj before
    · exact ordinary_of_mem_pushedBy admitted pushed
  · obtain ⟨sent, isSent⟩ := sound.sent
    exact ⟨sent ++ messages, by
      rw [moves.process, isSent, List.map_append]⟩

theorem sound_start : start.Sound where
  counts := IdLookup.counts_start true
  few := by decide +kernel
  accounts := ⟨[], ProcessPipe.State.accounts_start⟩
  queued := fun _ isPending => nomatch isPending
  sent := ⟨[], rfl⟩

/-! ## Runs -/

/-- What went to a slot and is pending under a name, for what was pushed under
the name. -/
structure Delivers (name : JavaString) (slot : Slot) (s t : InputPath)
    (pushed : List PushedInput) (messages : List InputMessage) : Prop where
  process : t.process = s.process ++ messages.map InputMessage.array
  inOrder : (messagesOf slot messages).map InputMessage.input ++
      inputsOf name t.pending =
    inputsOf name s.pending ++ inputsOf name pushed

theorem Moves.delivers {name : JavaString} {slot : Slot}
    {pushed handed : List PushedInput} {messages : List InputMessage}
    (moves : s.Moves t pushed handed messages)
    {entry : GroupMappingTableEntry}
    (published : s.idLookupTable.entryOf name = some entry)
    (isSlot : entry.mixerId = slot.val) :
    Delivers name slot s t pushed messages where
  process := moves.process
  inOrder := by
    rw [moves.addressed name entry slot published isSlot, ← inputsOf_append,
      ← inputsOf_append, moves.inOrder]

theorem Delivers.trans {name : JavaString} {slot : Slot} {u : InputPath}
    {pushed pushedLater : List PushedInput}
    {messages later : List InputMessage}
    (first : Delivers name slot s t pushed messages)
    (second : Delivers name slot t u pushedLater later) :
    Delivers name slot s u (pushed ++ pushedLater) (messages ++ later) where
  process := by
    rw [second.process, first.process, List.map_append, List.append_assoc]
  inOrder := by
    rw [messagesOf, List.filter_append, List.map_append, ← messagesOf,
      ← messagesOf, List.append_assoc, second.inOrder, ← List.append_assoc,
      first.inOrder, inputsOf_append, List.append_assoc]

/-- As long as the name keeps its entry, all steps together deliver. -/
theorem exists_delivers {name : JavaString} {slot : Slot}
    {entry : GroupMappingTableEntry} (isSlot : entry.mixerId = slot.val)
    {steps : List Step} :
    ∀ {s : InputPath}, s.Sound →
      s.idLookupTable.entryOf name = some entry →
      EveryStep act Admits s steps →
      (∀ call, Step.table call ∈ steps → call.streamName ≠ name) →
      run act s steps = .ok t →
      ∃ messages, Delivers name slot s t (pushedBy steps) messages := by
  induction steps with
  | nil =>
      intro s _ _ _ _ reached
      cases reached
      exact ⟨[], (List.append_nil _).symm, (List.append_nil _).symm⟩
  | cons a rest inductionHypothesis =>
      intro s sound published admitted stays reached
      obtain ⟨next, stepped, continued⟩ := run_cons_ok.mp reached
      obtain ⟨handed, messages, moves⟩ := sound.moves admitted.1 stepped
      have stillPublished : next.idLookupTable.entryOf name = some entry := by
        rcases idLookupTable_act stepped with ⟨call, isCall, called⟩ | same
        · rw [IdLookup.entryOf_step called (stays call (by simp [isCall])),
            published]
        · rw [same, published]
      obtain ⟨later, delivers⟩ := inductionHypothesis
        (sound.act admitted.1 stepped) stillPublished
        (admitted.2 next stepped)
        (fun call member => stays call (List.mem_cons_of_mem _ member))
        continued
      rw [pushedBy_cons]
      exact ⟨messages ++ later,
        (moves.delivers published isSlot).trans delivers⟩

end InputPath

/-! ## Reading -/

/-- What the mixcoder makes of a message. -/
def InputObject.flvTag (input : InputObject) : FLVTag where
  curStreamType := StreamType.ofByte input.msgType.toUInt8
  curFlvTagSize := UInt32.ofNat input.flvFrame.length + (7 + 4)
  strFlvTag :=
    [(input.eventTime >>> 16).toUInt8, (input.eventTime >>> 8).toUInt8,
      input.eventTime.toUInt8, (input.eventTime >>> 24).toUInt8, 0, 0, 0] ++
      input.flvFrame ++ [0, 0, 0, 0]

/-- The tags handed to a slot. -/
def tagsFor (slot : Slot) : List StreamCall → List FLVTag :=
  List.filterMap fun
    | .flvTag i tag => if i = slot then some tag else none
    | _ => none

theorem tagsFor_append (slot : Slot) (first second : List StreamCall) :
    tagsFor slot (first ++ second) =
      tagsFor slot first ++ tagsFor slot second :=
  List.filterMap_append

theorem tagsFor_streamSources (slot : Slot) (slots : List Slot)
    (source : StreamSource) :
    tagsFor slot (slots.map fun i => .streamSource i source) = [] := by
  induction slots with
  | nil => rfl
  | cons i rest inductionHypothesis => exact inductionHypothesis

theorem InputMessage.tagsFor_calls (message : InputMessage) (slot : Slot) :
    tagsFor slot message.calls =
      if message.slot = slot then [message.input.flvTag] else [] := by
  rw [calls, tagsFor_append, tagsFor_streamSources, List.append_nil]
  by_cases same : message.slot = slot
  · simp only [tagsFor, List.filterMap_cons, List.filterMap_nil, if_pos same]
    rfl
  · simp only [tagsFor, List.filterMap_cons, List.filterMap_nil, if_neg same]

theorem tagsFor_messages (slot : Slot) (messages : List InputMessage) :
    tagsFor slot (messages.flatMap InputMessage.calls) =
      ((InputPath.messagesOf slot messages).map InputMessage.input).map
        InputObject.flvTag := by
  induction messages with
  | nil => rfl
  | cons message rest inductionHypothesis =>
      rw [List.flatMap_cons, tagsFor_append, inductionHypothesis,
        message.tagsFor_calls, InputPath.messagesOf, InputPath.messagesOf,
        List.filter_cons]
      by_cases same : message.slot = slot
      · simp [same]
      · simp [same]

/-- However the bytes are cut, reading them is making the calls. -/
def ReadsAs (bytes : Bytes) (calls : List StreamCall) : Prop :=
  ∀ (μ : Type) (act : μ → StreamCall → Except Abort μ) (p : InputSide μ),
    p.AtSegment → ∀ inputs : List SmartBuffer,
      SmartBuffer.stream inputs = bytes →
        (p.readAll act inputs).map InputSide.streams = run act p.streams calls

theorem readsAs_messages (messages : List InputMessage) :
    ReadsAs (messages.map InputMessage.array).flatten
      (messages.flatMap InputMessage.calls) := by
  intro μ act p atSegment inputs cut
  rw [← List.flatMap_def] at cut
  obtain ⟨parser, _, _, ran⟩ := run_segments act messages p.parser
    atSegment.parsers
  have read := readAll_messages act atSegment cut
  rw [ran] at read
  have streams : ∀ x : Except Abort (InputSide μ),
      x.map InputSide.streams =
        (x.map fun q => (q.parser, q.streams)).map Prod.snd := by
    intro x
    cases x with
    | error stopped => rfl
    | ok q => rfl
  rw [streams, read]
  cases run act p.streams (messages.flatMap InputMessage.calls) with
  | error stopped => rfl
  | ok after => rfl

namespace InputPath

/-- Two streams are created behind the delayed karaoke. -/
def twoCreated : List Step :=
  [.table (.createNewEntry [97]), .table (.createNewEntry [98])]

def firstInput : InputObject where
  msgType := 8
  flvFrame := [0x2f, 7]
  eventTime := 26

def otherInput : InputObject where
  msgType := 9
  flvFrame := [0x27, 2, 0, 0, 0]
  eventTime := 27

def secondInput : InputObject where
  msgType := 8
  flvFrame := [0x2f, 9]
  eventTime := 0x80000001

/-- The second stream is deleted before its message is written; the first one
goes on. -/
def otherLeaves : List Step :=
  [.pushInputMessage [97] firstInput, .pushInputMessage [98] otherInput] ++
    List.replicate 5 .writer ++
    [.table (.deleteEntry [98]), .table (.createNewEntry [99])] ++
    List.replicate 4 .writer ++
    [.pushInputMessage [97] secondInput]

end InputPath

end GroupVoip
