import GroupVoip.AllInOneQueue
import GroupVoip.PublishedNames

/-!
# The two allocators

The table and the connection each take the lowest free id.  They agree as long
as every `createStream` is queued while the id of the table is the one that
the connection will come to, with the deletes before it queued already, and
every `publish` while no stream of the name is left.
-/

namespace GroupVoip

open Library.ClearBit Library.Runs

namespace AllInOne

open StreamService

/-! ## The connection by indexes -/

/-- What an index stands for: free, reserved, or the name that is published
on it. -/
def Connection.at_ (c : Connection) (index : Nat) :
    Option (Option JavaString) :=
  match c.streams.lookup index with
  | some (.broadcast bs) => some bs.livePipe
  | some .playlistSubscriber => some none
  | none => if index ∈ c.reservedStreams then some none else none

/-- Streams broadcast under their published names, on reserved ids. -/
def Connection.Tidy (c : Connection) : Prop :=
  ∀ index stream, c.streams.lookup index = some stream →
    ∃ bs name, stream = .broadcast bs ∧ bs.publishedName = some name ∧
      bs.livePipe = some name ∧ index ∈ c.reservedStreams

/-- What a message of the queue relies on when it is handled. -/
def Connection.Ready (c : Connection) : Task → Prop
  | .createStream call =>
      call.newStreamId = lowestClear c.reservedStreams + 1
  | .publish call =>
      c.reservedBy call = some call.newStreamId ∧ 63 ∉ call.streamName ∧
        c.server.providers
          (scopeOf allInOneConn, mixedName call.streamName) = [] ∧
        ∃ index : Nat, call.newStreamId = index + 1 ∧ c.at_ index = some none
  | .deleteStream streamId =>
      ∃ (index : Nat) (name : JavaString),
        streamId = index + 1 ∧ c.at_ index = some (some name)

namespace Connection

variable {c : Connection}

/-! ### Indexes -/

theorem Tidy.at_eq_some_some (tidy : c.Tidy) {index : Nat}
    {name : JavaString} (isName : c.at_ index = some (some name)) :
    ∃ bs, c.streams.lookup index = some (.broadcast bs) ∧
      bs.publishedName = some name ∧ bs.livePipe = some name := by
  rw [at_] at isName
  cases found : c.streams.lookup index with
  | none =>
      rw [found] at isName
      dsimp only at isName
      split at isName
      · cases isName
      · cases isName
  | some stream =>
      obtain ⟨bs, other, isBroadcast, isPublished, isLive, -⟩ :=
        tidy index stream found
      rw [found, isBroadcast] at isName
      have same := Option.some.inj isName
      rw [isLive] at same
      cases same
      exact ⟨bs, by rw [isBroadcast], isPublished, isLive⟩

theorem Tidy.at_eq_some_none (tidy : c.Tidy) {index : Nat} :
    c.at_ index = some none ↔
      c.streams.lookup index = none ∧ index ∈ c.reservedStreams := by
  rw [at_]
  cases found : c.streams.lookup index with
  | none => simp
  | some stream =>
      obtain ⟨bs, other, isBroadcast, -, isLive, -⟩ := tidy index stream found
      rw [isBroadcast]
      simp [isLive]

theorem Tidy.at_eq_none (tidy : c.Tidy) {index : Nat} :
    c.at_ index = none ↔
      c.streams.lookup index = none ∧ index ∉ c.reservedStreams := by
  rw [at_]
  cases found : c.streams.lookup index with
  | none => simp
  | some stream =>
      obtain ⟨bs, other, isBroadcast, -⟩ := tidy index stream found
      rw [isBroadcast]
      simp

theorem Tidy.not_mem_iff (tidy : c.Tidy) {index : Nat} :
    index ∉ c.reservedStreams ↔ c.at_ index = none := by
  rw [tidy.at_eq_none]
  constructor
  · intro clear
    refine ⟨?_, clear⟩
    cases found : c.streams.lookup index with
    | none => rfl
    | some stream =>
        obtain ⟨_, _, -, -, -, reserved⟩ := tidy index stream found
        exact absurd reserved clear
  · exact And.right

/-! ### Messages -/

theorem handle_createStream (call : CreateCall) :
    (c.handle (.createStream call)).streams = c.streams ∧
      (c.handle (.createStream call)).reservedStreams =
        insert (lowestClear c.reservedStreams) c.reservedStreams ∧
      (c.handle (.createStream call)).reservedBy =
        Function.update c.reservedBy call
          (some (lowestClear c.reservedStreams + 1)) := by
  refine ⟨?_, ?_, rfl⟩
  · rw [streams, handle, StreamService.State.createStream]
    dsimp only
    rw [StreamService.State.setConn_self]
    rfl
  · rw [reservedStreams, handle, StreamService.State.createStream]
    dsimp only
    rw [StreamService.State.setConn_self]
    rfl

theorem Tidy.createStream (tidy : c.Tidy) (call : CreateCall) :
    (c.handle (.createStream call)).Tidy ∧
      (c.handle (.createStream call)).at_ =
        Function.update c.at_ (lowestClear c.reservedStreams) (some none) := by
  obtain ⟨streams, reserved, -⟩ := @handle_createStream c call
  constructor
  · intro index stream found
    rw [streams] at found
    obtain ⟨bs, name, isBroadcast, isPublished, isLive, isReserved⟩ :=
      tidy index stream found
    refine ⟨bs, name, isBroadcast, isPublished, isLive, ?_⟩
    rw [reserved]
    exact Finset.mem_insert_of_mem isReserved
  · funext index
    rw [at_, streams, reserved]
    by_cases same : index = lowestClear c.reservedStreams
    · have missing := (tidy.at_eq_none.mp (tidy.not_mem_iff.mp
        (lowestClear_not_mem c.reservedStreams))).1
      rw [same, missing, Function.update_self]
      exact if_pos (Finset.mem_insert_self _ _)
    · rw [Function.update_of_ne same, at_]
      simp only [Finset.mem_insert, same, false_or]

/-- A name without a question mark is published as it is. -/
theorem withoutParameters_mixedName {streamName : JavaString}
    (plain : 63 ∉ streamName) :
    withoutParameters (mixedName streamName) = some (mixedName streamName) := by
  have plainPrefix : 63 ∉ GroupMixer.MIXED_STREAM_PREFIX := by decide
  rw [withoutParameters, if_neg]
  rw [mixedName, List.mem_append, not_or]
  exact ⟨plainPrefix, plain⟩

theorem mixedName_ne (streamName : JavaString) :
    mixedName streamName ≠ [] ∧
      mixedName streamName ≠ .ascii "false" := by
  have isPrefix : GroupMixer.MIXED_STREAM_PREFIX =
      95 :: GroupMixer.MIXED_STREAM_PREFIX.tail := by
    decide
  have isFalse : JavaString.ascii "false" =
      102 :: (JavaString.ascii "false").tail := by
    decide
  rw [mixedName, isPrefix, isFalse, List.cons_append]
  constructor
  · exact List.cons_ne_nil _ _
  · intro same
    have head := (List.cons.inj same).1
    exact absurd head (by decide)

/-- The stream that a `publish` makes. -/
def mixedStream (c : Connection) (index : Nat) (streamName : JavaString) :
    ClientBroadcastStream where
  provider := ⟨allInOneConn, index + 1, c.server.streamNames⟩
  publishedName := some (mixedName streamName)
  livePipe := some (mixedName streamName)

theorem handle_publish {call : CreateCall} {index : Nat} (tidy : c.Tidy)
    (isId : call.newStreamId = index + 1) (plain : 63 ∉ call.streamName)
    (free : c.server.providers
      (scopeOf allInOneConn, mixedName call.streamName) = [])
    (reserved : c.at_ index = some none) :
    (c.handle (.publish call)).streams =
        c.streams.insert index
          (.broadcast (c.mixedStream index call.streamName)) ∧
      (c.handle (.publish call)).reservedStreams = c.reservedStreams ∧
      (c.handle (.publish call)).reservedBy = c.reservedBy := by
  obtain ⟨missing, isReserved⟩ := tidy.at_eq_some_none.mp reserved
  have position : ((index : Int) + 1 - 1).toNat = index := by omega
  have admitted : c.server.admittedName scopeOf allInOneConn
      (mixedName call.streamName) true false =
        some (mixedName call.streamName) := by
    rw [StreamService.State.admittedName, withoutParameters_mixedName plain]
    dsimp only
    rw [if_neg]
    simp [mixedName_ne, free]
  have valid : (c.server.conns allInOneConn).isValidStreamId (index + 1) =
      true := by
    rw [RTMPConnection.isValidStreamId]
    rw [position, if_neg, ← Connection.streams, missing]
    · rfl
    · rw [not_or, not_not]
      exact ⟨by omega, isReserved⟩
  have found : c.server.broadcastStream allInOneConn (index + 1) =
      some ({ provider := ⟨allInOneConn, index + 1, c.server.streamNames⟩ },
        { c.server with streamNames := c.server.streamNames + 1 }) := by
    rw [StreamService.State.broadcastStream, getStreamById_of_index,
      ← Connection.streams, missing]
    dsimp only
    rw [StreamService.State.newBroadcastStream, if_pos valid]
  have named : ({ provider :=
        ⟨allInOneConn, index + 1, c.server.streamNames⟩ } :
      ClientBroadcastStream).setPublishedName (mixedName call.streamName) =
      { provider := ⟨allInOneConn, index + 1, c.server.streamNames⟩
        publishedName := some (mixedName call.streamName) } := by
    rw [ClientBroadcastStream.setPublishedName, if_neg (mixedName_ne _).2]
  have published : (c.handle (.publish call)).server.conns allInOneConn =
      (c.server.conns allInOneConn).registerStream (index + 1)
        (.broadcast (c.mixedStream index call.streamName)) := by
    rw [handle, isId, publishMixed, admitted, found]
    dsimp only
    rw [StreamService.State.registerBroadcastStream, named]
    exact Function.update_self allInOneConn _ c.server.conns
  refine ⟨?_, ?_, rfl⟩
  · rw [streams, published, RTMPConnection.registerStream, position]
    rfl
  · rw [reservedStreams, published]
    rfl

theorem Tidy.publish {call : CreateCall} {index : Nat} (tidy : c.Tidy)
    (isId : call.newStreamId = index + 1) (plain : 63 ∉ call.streamName)
    (free : c.server.providers
      (scopeOf allInOneConn, mixedName call.streamName) = [])
    (reserved : c.at_ index = some none) :
    (c.handle (.publish call)).Tidy ∧
      (c.handle (.publish call)).at_ =
        Function.update c.at_ index
          (some (some (mixedName call.streamName))) := by
  obtain ⟨streams, reservedStreams, -⟩ :=
    handle_publish tidy isId plain free reserved
  have isReserved := (tidy.at_eq_some_none.mp reserved).2
  constructor
  · intro other stream found
    rw [streams] at found
    rw [reservedStreams]
    by_cases same : other = index
    · rw [same, AList.lookup_insert] at found
      rw [same]
      exact ⟨_, _, (Option.some.inj found).symm, rfl, rfl, isReserved⟩
    · rw [AList.lookup_insert_ne same] at found
      exact tidy other stream found
  · funext other
    rw [at_, streams, reservedStreams]
    by_cases same : other = index
    · rw [same, AList.lookup_insert, Function.update_self]
      rfl
    · rw [AList.lookup_insert_ne same, Function.update_of_ne same, at_]

theorem handle_deleteStream {index : Nat} {name : JavaString} (tidy : c.Tidy)
    (published : c.at_ index = some (some name)) :
    (c.handle (.deleteStream (index + 1))).streams = c.streams.erase index ∧
      (c.handle (.deleteStream (index + 1))).reservedStreams =
        c.reservedStreams.erase index ∧
      (c.handle (.deleteStream (index + 1))).reservedBy = c.reservedBy := by
  obtain ⟨bs, found, isPublished, -⟩ := tidy.at_eq_some_some published
  have position : ((index : Int) + 1 - 1).toNat = index := by omega
  have getStream : (c.server.conns allInOneConn).getStreamById (index + 1) =
      some (.broadcast bs) := by
    rw [getStreamById_of_index]
    exact found
  have conns : (c.server.closeBroadcast scopeOf allInOneConn bs).conns =
      c.server.conns := by
    rw [StreamService.State.closeBroadcast]
    split <;> rfl
  have stays : ((c.server.closeBroadcast scopeOf allInOneConn bs).conns
      allInOneConn).streams.lookup index = some (.broadcast bs) := by
    rw [conns]
    exact found
  have deleted := StreamService.State.deletes stays
  have after : (c.handle (.deleteStream (index + 1))).server.conns
      allInOneConn =
        { c.server.conns allInOneConn with
          streams := c.streams.erase index
          reservedStreams := c.reservedStreams.erase index } := by
    rw [handle, StreamService.State.deleteStream, getStream]
    dsimp only
    rw [StreamService.State.closeClientStream, if_neg]
    · rw [Option.map_some, Option.getD_some,
        StreamService.State.unreserveStreamId]
      dsimp only
      rw [if_pos (by omega), StreamService.State.setConn_self, deleted.conns,
        StreamService.State.setConn_self, position, conns]
      rfl
    · rw [isPublished]
      simp
  refine ⟨?_, ?_, rfl⟩
  · rw [streams, after]
  · rw [reservedStreams, after]

theorem Tidy.deleteStream {index : Nat} {name : JavaString} (tidy : c.Tidy)
    (published : c.at_ index = some (some name)) :
    (c.handle (.deleteStream (index + 1))).Tidy ∧
      (c.handle (.deleteStream (index + 1))).at_ =
        Function.update c.at_ index none := by
  obtain ⟨streams, reservedStreams, -⟩ := handle_deleteStream tidy published
  constructor
  · intro other stream found
    rw [streams] at found
    have differs : other ≠ index := by
      intro same
      rw [same, AList.lookup_erase] at found
      cases found
    rw [AList.lookup_erase_ne differs] at found
    obtain ⟨bs, liveName, isBroadcast, isPublished, isLive, isReserved⟩ :=
      tidy other stream found
    refine ⟨bs, liveName, isBroadcast, isPublished, isLive, ?_⟩
    rw [reservedStreams]
    exact Finset.mem_erase_of_ne_of_mem differs isReserved
  · funext other
    rw [at_, streams, reservedStreams]
    by_cases same : other = index
    · rw [same, AList.lookup_erase, Function.update_self]
      exact if_neg (Finset.notMem_erase _ _)
    · rw [AList.lookup_erase_ne same, Function.update_of_ne same, at_]
      simp only [Finset.mem_erase, ne_eq, same, not_false_eq_true, true_and]

/-! ### Queues -/

/-- Every message of the queue finds what it relies on. -/
def QueueReady : Connection → List Task → Prop
  | _, [] => True
  | c, task :: rest => c.Ready task ∧ QueueReady (c.handle task) rest

theorem Tidy.handle (tidy : c.Tidy) {task : Task} (ready : c.Ready task) :
    (c.handle task).Tidy := by
  cases task with
  | createStream call => exact (tidy.createStream call).1
  | publish call =>
      obtain ⟨-, plain, free, index, isId, reserved⟩ := ready
      exact (tidy.publish isId plain free reserved).1
  | deleteStream streamId =>
      obtain ⟨index, name, isId, published⟩ := ready
      rw [isId]
      exact (tidy.deleteStream published).1

theorem Tidy.handleQueue {queue : List Task} :
    ∀ {c : Connection}, c.Tidy → c.QueueReady queue →
      (queue.foldl Connection.handle c).Tidy := by
  induction queue with
  | nil =>
      intro c tidy _
      exact tidy
  | cons task rest inductionHypothesis =>
      intro c tidy ready
      exact inductionHypothesis (tidy.handle ready.1) ready.2

theorem QueueReady.append {queue : List Task} {task : Task} :
    ∀ {c : Connection}, c.QueueReady queue →
      (queue.foldl Connection.handle c).Ready task →
        c.QueueReady (queue ++ [task]) := by
  induction queue with
  | nil =>
      intro c _ last
      exact ⟨last, trivial⟩
  | cons head rest inductionHypothesis =>
      intro c ready last
      exact ⟨ready.1, inductionHypothesis ready.2 last⟩

end Connection

end AllInOne

end GroupVoip
