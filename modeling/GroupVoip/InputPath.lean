import GroupVoip.InputRoundTrip
import GroupVoip.MixerMask
import GroupVoip.PipeDelivery

/-!
# From the publishers to the process

A message is queued under the name of its stream.  Its mixer id and the mask
are looked up when the writer thread comes to it, so that calls on the table
that came in between count.
-/

namespace GroupVoip

open Library.Runs Library.WireBytes

/-- `array`: the whole buffer, with zeros where nothing is written. -/
def ByteBuffer.array (buffer : ByteBuffer) : Bytes :=
  buffer.written ++ List.replicate (buffer.capacity - buffer.written.length) 0

/-- An `InputObject` with the name that it is looked up under. -/
structure PushedInput where
  streamName : JavaString
  input : InputObject
deriving DecidableEq, Repr

/-- `toByteBuffer`, with `none` for the null of a name without an entry. -/
def PushedInput.toByteBuffer (pushed : PushedInput) (t : IdLookup) :
    Except JavaException (Option ByteBuffer) :=
  match t.lookupMixerIdAndMask pushed.streamName with
  | some lookup => (pushed.input.toByteBuffer lookup).map some
  | none => .ok none

/-- The table, the pipe, and the arrays written to the process so far. -/
structure InputPath where
  idLookupTable : IdLookup
  mixerPipe : ProcessPipe.State PushedInput := {}
  process : List Bytes := []

namespace InputPath

/-- The path once the all-in-one connection is there, with karaoke. -/
def start : InputPath where
  idLookupTable := (StreamService.State.start true).idLookupTable

inductive Step where
  | table (call : IdCall)
  | pushInputMessage (streamName : JavaString) (input : InputObject)
  | notify
  | writer
  | ioFailed
  | close
  | spuriousWakeup
deriving DecidableEq, Repr

variable (s : InputPath)

def pipeAct (step : ProcessPipe.Step PushedInput) : Except Unit InputPath :=
  (s.mixerPipe.act step).map fun mixerPipe => { s with mixerPipe := mixerPipe }

/-- `out_.write(seg.array())` of the object in hand, which is behind the
lookup.  An exception of `toByteBuffer` is caught where one of the write is. -/
def writeObject (obj : PushedInput) : Except Unit InputPath :=
  match obj.toByteBuffer s.idLookupTable with
  | .ok seg =>
      let process := s.process ++ (seg.map ByteBuffer.array).toList
      { s with process := process }.pipeAct .writer
  | .error _ => s.pipeAct .writeFailed

/-- The next step of `tryToWrite`. -/
def writerStep : Except Unit InputPath :=
  if s.mixerPipe.writer = .write then
    match s.mixerPipe.removed with
    | some obj => s.writeObject obj
    | none => s.pipeAct .writer
  else s.pipeAct .writer

def act : Step → Except Unit InputPath
  | .table call =>
      match s.idLookupTable.step call with
      | .ok t => .ok { s with idLookupTable := t }
      | .error _ => .error ()
  | .pushInputMessage streamName input =>
      if 0 < input.flvFrame.length then s.pipeAct (.add ⟨streamName, input⟩)
      else .ok s
  | .notify => s.pipeAct .notify
  | .writer => s.writerStep
  | .ioFailed => s.pipeAct .writeFailed
  | .close => s.pipeAct .close
  | .spuriousWakeup => s.pipeAct .spuriousWakeup

end InputPath

/-! ## Ordinary messages -/

/-- Audio or video under a name that is not reserved, as RTMP can carry it. -/
def PushedInput.Ordinary (pushed : PushedInput) : Prop :=
  ¬ IdLookup.TakenForReserved pushed.streamName ∧
    (pushed.input.msgType = 8 ∨ pushed.input.msgType = 9) ∧
    pushed.input.flvFrame.length < 2 ^ 24

instance (pushed : PushedInput) : Decidable pushed.Ordinary :=
  inferInstanceAs (Decidable (_ ∧ _ ∧ _))

section ToByteBuffer

variable {t : IdLookup} {pushed : PushedInput}

theorem PushedInput.toByteBuffer_of_none
    (missing : t.entryOf pushed.streamName = none) :
    pushed.toByteBuffer t = .ok none := by
  rw [IdLookup.entryOf] at missing
  rw [toByteBuffer, IdLookup.lookupMixerIdAndMask, missing]

/-- What the table says for a name of a slot is the lookup of a message. -/
theorem IdLookup.Counts.lookup_eq (counts : t.Counts 2)
    {entry : GroupMappingTableEntry}
    (isEntry : t.entryOf pushed.streamName = some entry)
    {message : InputMessage} (mask : message.mask = t.getMixerMask)
    (isSlot : entry.mixerId = message.slot.val) :
    t.lookupMixerIdAndMask pushed.streamName = some message.lookup := by
  have agree : t.totalInputStreams - TOTAL_EXCLUDE_COUNT =
      maskCount t.getMixerMask := by
    have difference := counts.difference
    omega
  rw [entryOf] at isEntry
  rw [lookupMixerIdAndMask, isEntry]
  simp only [InputMessage.lookup, mask, isSlot, ofInt_slot, agree]

/-- An ordinary message of a name with an entry is a message of its slot. -/
theorem PushedInput.exists_message (counts : t.Counts 2)
    (few : t.mixedStreams < MAX_STREAM_COUNT) (ordinary : pushed.Ordinary)
    (nonempty : pushed.input.flvFrame ≠ []) {entry : GroupMappingTableEntry}
    (isEntry : t.entryOf pushed.streamName = some entry) :
    ∃ message : InputMessage, message.input = pushed.input ∧
      entry.mixerId = message.slot.val ∧
      pushed.toByteBuffer t = .ok (some {
        capacity := message.array.length, written := message.array }) := by
  obtain ⟨notTaken, audioOrVideo, length_lt⟩ := ordinary
  obtain ⟨slot, isSlot, isSet⟩ := counts.isSlot isEntry notTaken
  have count := IdLookup.maskCount_getMixerMask counts.mixerStreams_lt
  rw [← counts.mixed] at count
  let message : InputMessage := {
    input := pushed.input
    slot := slot
    mask := t.getMixerMask
    isSet := by
      rw [IdLookup.maskBit_getMixerMask]
      exact decide_eq_true isSet
    slotFree := by
      rw [count]
      exact few
    audioOrVideo := audioOrVideo
    nonempty := nonempty
    length_lt := length_lt }
  refine ⟨message, rfl, isSlot, ?_⟩
  have found : t.lookupMixerIdAndMask pushed.streamName =
      some message.lookup :=
    counts.lookup_eq isEntry rfl isSlot
  have filled : pushed.input.toByteBuffer message.lookup =
      .ok { capacity := message.array.length, written := message.array } :=
    message.arrives.filled
  rw [toByteBuffer, found]
  simp only [filled, Except.map]

end ToByteBuffer

end GroupVoip
