import GroupVoip.StreamService

/-!
# The queue of the all-in-one connection

A thread that creates or deletes a mixed stream updates the table first and
queues messages to the all-in-one connection later.  The connection handles
its queue one message at a time and allocates stream ids by itself.
-/

namespace GroupVoip

open Library.ClearBit Library.Runs

namespace AllInOne

open StreamService

/-- A call of `createMixedStream`: which of the calls it is, and the id that
the table has given. -/
structure CreateCall where
  op : Nat
  streamName : JavaString
  newStreamId : Int
deriving DecidableEq, Repr

/-- The messages of the queue. -/
inductive Task where
  | createStream (call : CreateCall)
  | publish (call : CreateCall)
  | deleteStream (streamId : Int)
deriving DecidableEq, Repr

/-- What a thread still has to queue. -/
inductive Pending where
  | createStream (call : CreateCall)
  | publish (call : CreateCall)
  | deleteStream (streamId : Int)
deriving DecidableEq, Repr

/-- All streams of the group share a scope. -/
def scopeOf (_ : Nat) : Nat := 0

/-- The number of the all-in-one connection. -/
def allInOneConn : Nat := 0

def mixedName (streamName : JavaString) : JavaString :=
  GroupMixer.MIXED_STREAM_PREFIX ++ streamName

/-- `StreamService.publish` on the all-in-one connection, which remembers no
publisher and creates no mixed stream. -/
def publishMixed (s : StreamService.State) (streamId : Int)
    (name : JavaString) : StreamService.State :=
  match s.admittedName scopeOf allInOneConn name true false,
      s.broadcastStream allInOneConn streamId with
  | some name, some (bs, s) =>
      s.registerBroadcastStream scopeOf allInOneConn streamId name bs
  | _, _ => s

/-- The connection with its streams, the id that each `createStream` has
reserved, and the calls whose `publish` has run. -/
structure Connection where
  server : StreamService.State := {}
  reservedBy : CreateCall → Option Int := fun _ => none
  publishedBy : List CreateCall := []

namespace Connection

def streams (c : Connection) : AList fun _ : Nat => ClientStream :=
  (c.server.conns allInOneConn).streams

def reservedStreams (c : Connection) : Finset Nat :=
  (c.server.conns allInOneConn).reservedStreams

def handle (c : Connection) : Task → Connection
  | .createStream call =>
      let streamId := (c.server.conns allInOneConn).reserveStreamId.1
      { c with
        server := c.server.createStream allInOneConn
        reservedBy := Function.update c.reservedBy call (some streamId) }
  | .publish call =>
      { c with
        server := publishMixed c.server call.newStreamId
          (mixedName call.streamName)
        publishedBy := call :: c.publishedBy }
  | .deleteStream streamId =>
      { c with
        server := (c.server.deleteStream scopeOf allInOneConn streamId).getD
          c.server }

end Connection

structure State where
  idLookupTable : IdLookup := {}
  calls : List Pending := []
  queue : List Task := []
  connection : Connection := {}
  nextOp : Nat := 0

/-- The steps of the threads and of the connection. -/
inductive Step where
  | createNewEntry (streamName : JavaString)
  | deleteEntry (streamName : JavaString)
  | queueCreateStream (call : CreateCall)
  | queuePublish (call : CreateCall)
  | queueDeleteStream (streamId : Int)
  | handle
deriving DecidableEq, Repr

namespace State

/-- A thread is still in `createMixedStream` for the name. -/
def creating (s : State) (streamName : JavaString) : Bool :=
  s.calls.any fun
    | .createStream call => call.streamName = streamName
    | .publish call => call.streamName = streamName
    | .deleteStream _ => false

/-- A name is created while it is not in the table, and deleted when its
creation is over; a name that has been published has no question mark. -/
def act (s : State) : Step → Except Unit State
  | .createNewEntry streamName =>
      if 63 ∈ streamName ∨
          (s.idLookupTable.groupMappingTable.lookup streamName).isSome then
        .error ()
      else
        let created := s.idLookupTable.createNewEntry streamName
        .ok { s with
          idLookupTable := created.2
          calls := .createStream ⟨s.nextOp, streamName, created.1⟩ :: s.calls
          nextOp := s.nextOp + 1 }
  | .deleteEntry streamName =>
      if s.creating streamName then .error ()
      else
        let deleted := s.idLookupTable.deleteEntry streamName
        .ok { s with
          idLookupTable := deleted.2
          calls :=
            if deleted.1 ≠ -1 then .deleteStream deleted.1 :: s.calls
            else s.calls }
  | .queueCreateStream call =>
      if .createStream call ∈ s.calls then
        .ok { s with
          calls := .publish call :: s.calls.erase (.createStream call)
          queue := s.queue ++ [.createStream call] }
      else .error ()
  | .queuePublish call =>
      if .publish call ∈ s.calls then
        .ok { s with
          calls := s.calls.erase (.publish call)
          queue := s.queue ++ [.publish call] }
      else .error ()
  | .queueDeleteStream streamId =>
      if .deleteStream streamId ∈ s.calls then
        .ok { s with
          calls := s.calls.erase (.deleteStream streamId)
          queue := s.queue ++ [.deleteStream streamId] }
      else .error ()
  | .handle =>
      match s.queue with
      | task :: rest =>
          .ok { s with queue := rest, connection := s.connection.handle task }
      | [] => .error ()

/-- The connection once it has handled its queue. -/
def drained (s : State) : Connection :=
  s.queue.foldl Connection.handle s.connection

/-- Every `publish` has run on the id that its own `createStream` has
reserved. -/
def OwnIds (s : State) : Prop :=
  ∀ call ∈ s.connection.publishedBy,
    s.connection.reservedBy call = some call.newStreamId

/-- The stream id of every entry is that of the stream which is published
under the mixed name, and every other id is free. -/
def Agrees (s : State) : Prop :=
  (∀ streamName entry,
    s.idLookupTable.groupMappingTable.lookup streamName = some entry →
      ∃ (index : Nat) (bs : ClientBroadcastStream),
        entry.streamId = index + 1 ∧
        s.connection.streams.lookup index = some (.broadcast bs) ∧
        bs.publishedName = some (mixedName streamName) ∧
        bs.livePipe = some (mixedName streamName)) ∧
  ∀ index : Nat, (∀ streamName entry,
    s.idLookupTable.groupMappingTable.lookup streamName = some entry →
      entry.streamId ≠ index + 1) →
    index ∉ s.connection.reservedStreams ∧
      s.connection.streams.lookup index = none

/-- The two allocators agree. -/
def AllocatorsAgree (s : State) : Prop :=
  s.OwnIds ∧ (s.calls = [] → s.queue = [] → s.Agrees)

/-- A `createStream` is queued when the id of the table is the one that the
connection will allocate, and a `publish` when the name will be free. -/
def InTime (s : State) : Step → Prop
  | .queueCreateStream call =>
      call.newStreamId = lowestClear s.drained.reservedStreams + 1
  | .queuePublish call =>
      s.drained.server.providers
        (scopeOf allInOneConn, mixedName call.streamName) = []
  | _ => True

instance (s : State) (step : Step) : Decidable (s.InTime step) :=
  match step with
  | .createNewEntry _ => isTrue trivial
  | .deleteEntry _ => isTrue trivial
  | .queueCreateStream _ => inferInstanceAs (Decidable (_ = _))
  | .queuePublish _ => inferInstanceAs (Decidable (_ = _))
  | .queueDeleteStream _ => isTrue trivial
  | .handle => isTrue trivial

end State

end AllInOne

end GroupVoip
