import GroupVoip.CodecInfo
import GroupVoip.Library.ClearBit
import Mathlib.Data.List.AList

/-!
# IdLookup

The table that gives every stream of a group its two ids: the one used in the
mixer and the one used in RTMP.  A `BitSet` is the finite set of its bits, and
a name is a Java string, a list of UTF-16 code units.
-/

namespace GroupVoip

open Library.ClearBit

abbrev JavaString : Type := List UInt16

def JavaString.ascii (text : String) : JavaString :=
  text.toList.map fun c => UInt16.ofNat c.toNat

namespace GroupMixer

def ALL_IN_ONE_STREAM_NAME : JavaString := .ascii "allinone"
def KARAOKE_ORIG_STREAM_NAME : JavaString := .ascii "karaoke"

end GroupMixer

/-- `equalsIgnoreCase` of one character with a lower-case ASCII letter.  Java
maps to upper case and, if that does not help, back to lower case, which
takes the dotted and the dotless i, the long s and the Kelvin sign along. -/
def equalsLetterIgnoreCase (letter c : UInt16) : Bool :=
  c = letter || c + 32 = letter ||
    (letter = 105 && (c = 0x130 || c = 0x131)) ||
    (letter = 107 && c = 0x212a) || (letter = 115 && c = 0x17f)

/-- `name.equalsIgnoreCase(constant)` for a constant of lower-case ASCII
letters. -/
def JavaString.equalsIgnoreCase (name constant : JavaString) : Bool :=
  name.length = constant.length &&
    (constant.zip name).all fun pair => equalsLetterIgnoreCase pair.1 pair.2

structure GroupMappingTableEntry where
  mixerId : Int
  streamId : Int
deriving DecidableEq, Repr

def MAX_STREAM_COUNT : Nat := 32
def KARAOKE_STREAM_MIXER_ID : Int := 100
def ALL_IN_ONE_STREAM_MIXER_ID : Int := MAX_STREAM_COUNT

structure IdLookup where
  groupMappingTable : AList fun _ : JavaString => GroupMappingTableEntry := ∅
  totalInputStreams : Int := 0
  reservedStreams : Finset Nat := ∅
  mixerStreams : Finset Nat := ∅

namespace IdLookup

def reserveStreamId (t : IdLookup) : Int × IdLookup :=
  let i := lowestClear t.reservedStreams
  (i + 1, { t with reservedStreams := insert i t.reservedStreams })

def unreserveStreamId (t : IdLookup) (streamId : Int) : IdLookup :=
  if streamId > 0 then
    { t with reservedStreams := t.reservedStreams.erase (streamId - 1).toNat }
  else t

/-- Only a name that is not reserved takes a bit. -/
def reserveMixerId (t : IdLookup) (streamName : JavaString) :
    Int × IdLookup :=
  if streamName.equalsIgnoreCase GroupMixer.ALL_IN_ONE_STREAM_NAME then
    (ALL_IN_ONE_STREAM_MIXER_ID, t)
  else if streamName.equalsIgnoreCase GroupMixer.KARAOKE_ORIG_STREAM_NAME then
    (KARAOKE_STREAM_MIXER_ID, t)
  else
    let i := lowestClear t.mixerStreams
    (i, { t with mixerStreams := insert i t.mixerStreams })

def unreserveMixerId (t : IdLookup) (mixerId : Int) : IdLookup :=
  if mixerId ≥ 0 then
    { t with mixerStreams := t.mixerStreams.erase mixerId.toNat }
  else t

/-- `lookupStreamId` by mixer id, on the entries in the order of the key set,
which Java leaves open. -/
def lookupStreamId (entries : List GroupMappingTableEntry) (mixerId : Int) :
    Int :=
  entries.foldl
    (fun streamId value =>
      if value.mixerId = mixerId then value.streamId else streamId)
    (-1)

def createNewEntry (t : IdLookup) (streamName : JavaString) : Int × IdLookup :=
  let (mixerId, t) := t.reserveMixerId streamName
  let (streamId, t) := t.reserveStreamId
  (streamId,
    { t with
      groupMappingTable := t.groupMappingTable.insert streamName
        { mixerId := mixerId, streamId := streamId }
      totalInputStreams := t.totalInputStreams + 1 })

def deleteEntry (t : IdLookup) (streamName : JavaString) : Int × IdLookup :=
  match t.groupMappingTable.lookup streamName with
  | some entry =>
      let t := t.unreserveStreamId entry.streamId
      let t := t.unreserveMixerId entry.mixerId
      (entry.streamId,
        { t with
          groupMappingTable := t.groupMappingTable.erase streamName
          totalInputStreams := t.totalInputStreams - 1 })
  | none => (-1, t)

end IdLookup

/-! ## Runs -/

inductive IdCall where
  | createNewEntry (streamName : JavaString)
  | deleteEntry (streamName : JavaString)
deriving DecidableEq, Repr

/-- A call on the table; none can fail. -/
def IdLookup.step (t : IdLookup) : IdCall → Except Abort IdLookup
  | .createNewEntry streamName => .ok (t.createNewEntry streamName).2
  | .deleteEntry streamName => .ok (t.deleteEntry streamName).2

end GroupVoip
