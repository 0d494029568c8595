import GroupVoip.GroupMixer
import GroupVoip.Library.Runs
import Mathlib.Data.List.DropRight
import Mathlib.Logic.Function.Basic

/-!
# StreamService

What the clients' messages do to their streams and to the table of the mixer.
The all-in-one connection is not among the connections; what it publishes
enters as a part of the message.
-/

namespace GroupVoip

open Library.ClearBit

def JavaString.contains (name part : JavaString) : Bool :=
  decide (part <:+: name)

/-- `split` at one character, which keeps no empty parts at the end.  A string
without the character is its own only part. -/
def JavaString.split (name : JavaString) (c : UInt16) : List JavaString :=
  if c ∈ name then (name.splitOn c).rdropWhile List.isEmpty else [name]

namespace GroupMixer

def MIXED_STREAM_PREFIX : JavaString := .ascii "__mixed__"

/-- The names that `tryToCreateAllInOneConn` creates. -/
def internalNames (bGenKaraoke : Bool) : List JavaString :=
  ALL_IN_ONE_STREAM_NAME ::
    if bGenKaraoke then
      [KARAOKE_ORIG_STREAM_NAME, KARAOKE_DELAYED_STREAM_NAME]
    else []

end GroupMixer

namespace StreamService

/-! ## The connections -/

/-- A stream as an object: whose it is, its id, and the name it was created
with, which no other stream has. -/
structure Provider where
  connection : Nat
  streamId : Int
  name : Nat
deriving DecidableEq, Repr

/-- The pipe of a stream is the one of a broadcast scope, known by name. -/
structure ClientBroadcastStream where
  provider : Provider
  publishedName : Option JavaString := none
  livePipe : Option JavaString := none
deriving DecidableEq, Repr

inductive ClientStream where
  | broadcast (bs : ClientBroadcastStream)
  | playlistSubscriber
deriving DecidableEq, Repr

structure RTMPConnection where
  closed : Bool := false
  reservedStreams : Finset Nat := ∅
  streams : AList fun _ : Nat => ClientStream := ∅
  publisherStreamName : Option JavaString := none
  publisherStreamId : Int := 0

namespace RTMPConnection

def getStreamById (c : RTMPConnection) (id : Int) : Option ClientStream :=
  if id ≤ 0 then none else c.streams.lookup (id - 1).toNat

def isValidStreamId (c : RTMPConnection) (streamId : Int) : Bool :=
  let index := streamId - 1
  if index < 0 ∨ index.toNat ∉ c.reservedStreams then false
  else (c.streams.lookup index.toNat).isNone

def reserveStreamId (c : RTMPConnection) : Int × RTMPConnection :=
  let i := lowestClear c.reservedStreams
  (i + 1, { c with reservedStreams := insert i c.reservedStreams })

def registerStream (c : RTMPConnection) (streamId : Int)
    (stream : ClientStream) : RTMPConnection :=
  { c with streams := c.streams.insert (streamId - 1).toNat stream }

end RTMPConnection

/-- The name `"false"` stops a stream and is not kept. -/
def ClientBroadcastStream.setPublishedName (bs : ClientBroadcastStream)
    (name : JavaString) : ClientBroadcastStream :=
  if name = .ascii "false" then bs else { bs with publishedName := some name }

/-- The connections, the table, the providers of every broadcast scope, and
the names given to streams so far. -/
structure State where
  conns : Nat → RTMPConnection := fun _ => {}
  idLookupTable : IdLookup := {}
  providers : Nat × JavaString → List Provider := fun _ => []
  streamNames : Nat := 0

namespace State

def setConn (s : State) (conn : Nat) (c : RTMPConnection) : State :=
  { s with conns := Function.update s.conns conn c }

/-! ## The table of the mixer -/

def createMixedStream (s : State) (streamName : JavaString) : State :=
  { s with idLookupTable := (s.idLookupTable.createNewEntry streamName).2 }

def deleteMixedStream (s : State) (streamName : JavaString) : State :=
  { s with idLookupTable := (s.idLookupTable.deleteEntry streamName).2 }

/-- The state once the all-in-one connection is there. -/
def start (bGenKaraoke : Bool) : State :=
  (GroupMixer.internalNames bGenKaraoke).foldl createMixedStream {}

/-! ## Deleting a stream -/

def deleteStreamById (s : State) (conn : Nat) (streamId : Int) : State :=
  let c := s.conns conn
  if (c.getStreamById streamId).isSome then
    let s := s.setConn conn
      { c with streams := c.streams.erase (streamId - 1).toNat }
    if streamId = c.publisherStreamId then
      match c.publisherStreamName with
      | some publisherStreamName => s.deleteMixedStream publisherStreamName
      | none => s
    else s
  else s

def unreserveStreamId (s : State) (conn : Nat) (streamId : Int) : State :=
  let s := s.deleteStreamById conn streamId
  if streamId > 0 then
    let c := s.conns conn
    s.setConn conn
      { c with reservedStreams := c.reservedStreams.erase (streamId - 1).toNat }
  else s

def unsubscribe (s : State) (scope : Nat × JavaString)
    (provider : Provider) : State :=
  let left := (s.providers scope).filter fun other => other ≠ provider
  { s with providers := Function.update s.providers scope left }

end State

section Scopes

/-! ## The messages

Connections to one application and room share a scope. -/

variable (scopeOf : Nat → Nat)

namespace State

def closeBroadcast (s : State) (conn : Nat)
    (bs : ClientBroadcastStream) : State :=
  match bs.livePipe with
  | some name => s.unsubscribe (scopeOf conn, name) bs.provider
  | none => s

/-- Close a stream of a connection.  A scope is looked up by the published
name first; without a published name an exception ends the call. -/
def closeClientStream (s : State) (conn : Nat) (stream : ClientStream) :
    Option State :=
  match stream with
  | .broadcast bs =>
      if bs.publishedName.isNone then none
      else some (s.closeBroadcast scopeOf conn bs)
  | .playlistSubscriber => some s

def closeStream (s : State) (conn : Nat) (streamId : Int) : Option State :=
  match (s.conns conn).getStreamById streamId with
  | some stream =>
      (s.closeClientStream scopeOf conn stream).map fun s =>
        s.deleteStreamById conn streamId
  | none => some s

def deleteStream (s : State) (conn : Nat) (streamId : Int) : Option State :=
  match (s.conns conn).getStreamById streamId with
  | some stream =>
      (s.closeClientStream scopeOf conn stream).map fun s =>
        s.unreserveStreamId conn streamId
  | none => some (s.unreserveStreamId conn streamId)

/-- `publish(false)` -/
def unpublish (s : State) (conn : Nat) (streamId : Int) : State :=
  match (s.conns conn).getStreamById streamId with
  | some (.broadcast bs) =>
      match bs.publishedName with
      | some name =>
          let s := s.unsubscribe (scopeOf conn, name) bs.provider
          let s := s.closeBroadcast scopeOf conn bs
          s.deleteStreamById conn streamId
      | none => s
  | _ => s

/-- Delete the streams of a connection, until an exception ends the call. -/
def deleteStreams (conn : Nat) : List Nat → State → Bool × State
  | [], s => (true, s)
  | index :: rest, s =>
      match s.deleteStream scopeOf conn (index + 1) with
      | some s => deleteStreams conn rest s
      | none => (false, s)

/-- The streams are taken in the order of the map, which Java leaves open. -/
def close (s : State) (conn : Nat) (order : List Nat) : State :=
  match deleteStreams scopeOf conn order s with
  | (true, s) =>
      s.setConn conn { s.conns conn with closed := true, streams := ∅ }
  | (false, s) => s

end State

/-! ## Publishing -/

/-- The name without the parameters behind the question mark.  A parameter
without a value is an index out of bounds, which ends the call. -/
def withoutParameters (name : JavaString) : Option JavaString :=
  if 63 ∈ name then
    let tmp := if name.head? = some 63 then some (name.drop 1)
      else (name.split 63)[1]?
    match tmp with
    | some tmp =>
        let kvs := JavaString.split tmp 38
        if kvs.all fun kv => 2 ≤ (JavaString.split kv 61).length then
          some (name.takeWhile (· ≠ 63))
        else none
    | none => none
  else some name

namespace State

/-- The name that is published, unless the message is refused: by a security
handler, or as the scope of the name has a provider. -/
def admittedName (s : State) (conn : Nat) (name : JavaString)
    (isPublishAllowed allInOnePublishes : Bool) : Option JavaString :=
  match withoutParameters name with
  | some name =>
      if name = [] ∨ isPublishAllowed = false ∨
          s.providers (scopeOf conn, name) ≠ [] ∨
          (name.contains GroupMixer.MIXED_STREAM_PREFIX = true ∧
            allInOnePublishes = true) then
        none
      else some name
  | none => none

def newBroadcastStream (s : State) (conn : Nat) (streamId : Int) :
    Option (ClientBroadcastStream × State) :=
  if (s.conns conn).isValidStreamId streamId then
    some ({ provider := ⟨conn, streamId, s.streamNames⟩ },
      { s with streamNames := s.streamNames + 1 })
  else none

/-- The stream to publish on.  There is none on an id that plays, and a null
stream on an id that is not valid. -/
def broadcastStream (s : State) (conn : Nat) (streamId : Int) :
    Option (ClientBroadcastStream × State) :=
  match (s.conns conn).getStreamById streamId with
  | some (.broadcast bs) => some (bs, s)
  | some .playlistSubscriber => none
  | none => s.newBroadcastStream conn streamId

def registerBroadcastStream (s : State) (conn : Nat) (streamId : Int)
    (name : JavaString) (bs : ClientBroadcastStream) : State :=
  let bs := { bs.setPublishedName name with livePipe := some name }
  let scope := (scopeOf conn, name)
  let s := s.setConn conn
    ((s.conns conn).registerStream streamId (.broadcast bs))
  { s with providers :=
      Function.update s.providers scope (s.providers scope ++ [bs.provider]) }

def setPublisherStreamInfo (s : State) (conn : Nat)
    (publisherStreamName : JavaString) (publisherStreamId : Int) : State :=
  s.setConn conn
    { s.conns conn with
      publisherStreamName := some publisherStreamName
      publisherStreamId := publisherStreamId }

/-- `publish` with the mode `"live"` -/
def publish (s : State) (conn : Nat) (streamId : Int) (name : JavaString)
    (isPublishAllowed allInOnePublishes : Bool) : State :=
  match s.admittedName scopeOf conn name isPublishAllowed allInOnePublishes,
      s.broadcastStream conn streamId with
  | some name, some (bs, s) =>
      let s := s.registerBroadcastStream scopeOf conn streamId name bs
      let s := s.setPublisherStreamInfo conn name streamId
      if name.contains GroupMixer.MIXED_STREAM_PREFIX then s
      else s.createMixedStream name
  | _, _ => s

/-! ## Playing -/

def createStream (s : State) (conn : Nat) : State :=
  s.setConn conn (s.conns conn).reserveStreamId.2

/-- The id that is played on: an id that is not positive stands for a new
one. -/
def playedId (s : State) (conn : Nat) (streamId : Int) : Int :=
  if streamId ≤ 0 then (s.conns conn).reserveStreamId.1 else streamId

def newPlaylistSubscriberStream (s : State) (conn : Nat) (streamId : Int) :
    Option State :=
  let c := s.conns conn
  if c.isValidStreamId streamId then
    some (s.setConn conn (c.registerStream streamId .playlistSubscriber))
  else none

/-- A stream that is there plays on as it is.  A null stream is an exception
that ends the call, and a new stream that cannot play is deleted. -/
def play (s : State) (conn : Nat) (streamId : Int) (name : JavaString)
    (isPlaybackAllowed failsToPlay : Bool) : State :=
  if name = [] ∨ isPlaybackAllowed = false then s
  else
    match (s.conns conn).getStreamById streamId with
    | some _ => s
    | none =>
        let id := s.playedId conn streamId
        let s := if streamId ≤ 0 then s.createStream conn else s
        match s.newPlaylistSubscriberStream conn id with
        | some s => if failsToPlay then s.deleteStreamById conn id else s
        | none => s

end State

/-- The messages of the clients, with what their handling finds out. -/
inductive Message where
  | createStream (conn : Nat)
  | publish (conn : Nat) (streamId : Int) (name : JavaString)
      (isPublishAllowed allInOnePublishes : Bool)
  | unpublish (conn : Nat) (streamId : Int)
  | closeStream (conn : Nat) (streamId : Int)
  | deleteStream (conn : Nat) (streamId : Int)
  | play (conn : Nat) (streamId : Int) (name : JavaString)
      (isPlaybackAllowed failsToPlay : Bool)
  | close (conn : Nat) (order : List Nat)
deriving DecidableEq, Repr

def Message.conn : Message → Nat
  | .createStream conn => conn
  | .publish conn _ _ _ _ => conn
  | .unpublish conn _ => conn
  | .closeStream conn _ => conn
  | .deleteStream conn _ => conn
  | .play conn _ _ _ _ => conn
  | .close conn _ => conn

def State.handle (s : State) : Message → State
  | .createStream conn => s.createStream conn
  | .publish conn streamId name isPublishAllowed allInOnePublishes =>
      s.publish scopeOf conn streamId name isPublishAllowed allInOnePublishes
  | .unpublish conn streamId => s.unpublish scopeOf conn streamId
  | .closeStream conn streamId =>
      (s.closeStream scopeOf conn streamId).getD s
  | .deleteStream conn streamId =>
      (s.deleteStream scopeOf conn streamId).getD s
  | .play conn streamId name isPlaybackAllowed failsToPlay =>
      s.play conn streamId name isPlaybackAllowed failsToPlay
  | .close conn order => s.close scopeOf conn order

/-- A connection is closed in some order of all its streams, and handles no
message once it is closed. -/
def State.act (s : State) (m : Message) : Except Unit State :=
  if (s.conns m.conn).closed then .ok s
  else
    match m with
    | .close conn order =>
        if order.Perm (s.conns conn).streams.keys then .ok (s.handle scopeOf m)
        else .error ()
    | _ => .ok (s.handle scopeOf m)

end Scopes

end StreamService

end GroupVoip
