import GroupVoip.IdTable
import GroupVoip.StreamService

/-!
# The published names

A connection remembers the name and the id of the last stream it published,
and never forgets them.  As long as no stream that plays is deleted on the
remembered id while the remembered name is in use again, no stream changes its
name, and no name is published in two scopes or taken from the mixer, the
table holds exactly the names that are published.
-/

namespace GroupVoip

open Library.Runs Library.ClearBit

namespace StreamService

namespace State

/-- A connection broadcasts a stream on the id after the index. -/
def Broadcasts (s : State) (conn index : Nat) (bs : ClientBroadcastStream) :
    Prop :=
  (s.conns conn).streams.lookup index = some (.broadcast bs)

def PublishedBy (s : State) (conn : Nat) (name : JavaString) : Prop :=
  ∃ index bs, s.Broadcasts conn index bs ∧ bs.livePipe = some name

/-- The names in the table, but for the internal ones, are those of the
streams that are published live, but for the mixed ones. -/
def MixedAsPublished (bGenKaraoke : Bool) (s : State) : Prop :=
  ∀ name, name ∉ GroupMixer.internalNames bGenKaraoke ∧
      s.idLookupTable.entryOf name ≠ none ↔
    name.contains GroupMixer.MIXED_STREAM_PREFIX = false ∧
      ∃ conn, s.PublishedBy conn name

/-- The id is the remembered one of the connection, and the remembered name
is in the table. -/
def remembersMixed (s : State) (conn : Nat) (streamId : Int) : Bool :=
  let c := s.conns conn
  streamId = c.publisherStreamId &&
    match c.publisherStreamName with
    | some name => (s.idLookupTable.entryOf name).isSome
    | none => false

/-- The stream plays, on the id that the connection remembers. -/
def playsOnRemembered (s : State) (conn : Nat) (streamId : Int) : Bool :=
  (s.conns conn).getStreamById streamId = some .playlistSubscriber &&
    s.remembersMixed conn streamId

end State

/-! ## The connections -/

theorem getStreamById_eq_some {c : RTMPConnection} {streamId : Int}
    {stream : ClientStream} :
    c.getStreamById streamId = some stream ↔
      ∃ index : Nat, streamId = index + 1 ∧
        c.streams.lookup index = some stream := by
  rw [RTMPConnection.getStreamById]
  constructor
  · intro found
    split at found
    · cases found
    · refine ⟨(streamId - 1).toNat, ?_, found⟩
      omega
  · rintro ⟨index, isId, found⟩
    have position : (streamId - 1).toNat = index := by omega
    rw [if_neg (by omega), position]
    exact found

theorem getStreamById_of_index (c : RTMPConnection) (index : Nat) :
    c.getStreamById (index + 1) = c.streams.lookup index := by
  have position : ((index : Int) + 1 - 1).toNat = index := by omega
  rw [RTMPConnection.getStreamById, if_neg (by omega), position]

namespace State

theorem setConn_self (s : State) (conn : Nat) (c : RTMPConnection) :
    (s.setConn conn c).conns conn = c :=
  Function.update_self _ _ _

theorem setConn_ne (s : State) {conn other : Nat} (c : RTMPConnection)
    (differs : other ≠ conn) :
    (s.setConn conn c).conns other = s.conns other :=
  Function.update_of_ne differs _ _

/-! ## Deleting a stream -/

section Delete

variable {s : State} {conn index : Nat} {stream : ClientStream}

theorem deleteStreamById_of_none {streamId : Int}
    (missing : (s.conns conn).getStreamById streamId = none) :
    s.deleteStreamById conn streamId = s := by
  rw [deleteStreamById, missing]
  rfl

/-- What a delete does to a stream that is there. -/
structure Deletes (s : State) (conn index : Nat) (after : State) : Prop where
  conns : after.conns = (s.setConn conn
    { s.conns conn with
      streams := (s.conns conn).streams.erase index }).conns
  providers : after.providers = s.providers
  entryOf : ∀ name, after.idLookupTable.entryOf name =
    if (s.conns conn).publisherStreamId = index + 1 ∧
        (s.conns conn).publisherStreamName = some name then none
    else s.idLookupTable.entryOf name

theorem deletes (found : (s.conns conn).streams.lookup index = some stream) :
    s.Deletes conn index (s.deleteStreamById conn (index + 1)) := by
  have position : ((index : Int) + 1 - 1).toNat = index := by omega
  have isThere : ((s.conns conn).getStreamById (index + 1)).isSome = true := by
    rw [getStreamById_of_index, found]
    rfl
  rw [deleteStreamById]
  dsimp only
  rw [if_pos isThere, position]
  split
  · rename_i remembered
    split
    · rename_i publisherStreamName isName
      refine ⟨rfl, rfl, ?_⟩
      intro name
      change (s.idLookupTable.deleteEntry _).2.entryOf name = _
      rw [IdLookup.entryOf_deleteEntry, isName, ← remembered]
      simp [eq_comm]
    · rename_i isNone
      refine ⟨rfl, rfl, ?_⟩
      intro name
      rw [isNone, if_neg]
      · rfl
      · rintro ⟨-, isName⟩
        cases isName
  · rename_i notRemembered
    refine ⟨rfl, rfl, ?_⟩
    intro name
    rw [if_neg]
    · rfl
    · rintro ⟨remembered, -⟩
      exact notRemembered remembered.symm

theorem Deletes.publisher {after : State} (deleted : s.Deletes conn index after)
    (other : Nat) :
    (after.conns other).publisherStreamName =
        (s.conns other).publisherStreamName ∧
      (after.conns other).publisherStreamId =
        (s.conns other).publisherStreamId := by
  rw [deleted.conns]
  by_cases same : other = conn
  · rw [same, setConn_self]
    exact ⟨rfl, rfl⟩
  · rw [setConn_ne s _ same]
    exact ⟨rfl, rfl⟩

theorem Deletes.broadcasts {after : State}
    (deleted : s.Deletes conn index after) (other i : Nat)
    (bs : ClientBroadcastStream) :
    after.Broadcasts other i bs ↔
      s.Broadcasts other i bs ∧ ¬ (other = conn ∧ i = index) := by
  rw [Broadcasts, Broadcasts, deleted.conns]
  by_cases same : other = conn
  · rw [same, setConn_self]
    dsimp only
    by_cases sameIndex : i = index
    · rw [sameIndex, AList.lookup_erase]
      simp
    · rw [AList.lookup_erase_ne sameIndex]
      simp [sameIndex]
  · rw [setConn_ne s _ same]
    simp [same]

end Delete

/-! ## What stays true -/

section Consistent

variable (scopeOf : Nat → Nat) (bGenKaraoke : Bool)

/-- A stream that is published live is the one its connection remembers, and
the only provider of its scope. -/
structure Owned (s : State) (conn index : Nat) (bs : ClientBroadcastStream)
    (name : JavaString) : Prop where
  livePipe : bs.livePipe = some name
  publisherStreamName : (s.conns conn).publisherStreamName = some name
  publisherStreamId : (s.conns conn).publisherStreamId = index + 1
  provider : bs.provider.connection = conn ∧ bs.provider.streamId = index + 1
  providers : s.providers (scopeOf conn, name) = [bs.provider]

structure Consistent (s : State) : Prop where
  mixed : s.MixedAsPublished bGenKaraoke
  owned : ∀ conn index bs, s.Broadcasts conn index bs →
    ∃ name, s.Owned scopeOf conn index bs name
  oneConn : ∀ name conn other,
    name.contains GroupMixer.MIXED_STREAM_PREFIX = false →
      s.PublishedBy conn name → s.PublishedBy other name → conn = other

variable {scopeOf bGenKaraoke} {s u after : State}

/-- The streams that broadcast are the same, and nothing else has changed that
they depend on. -/
structure SameBroadcasts (scopeOf : Nat → Nat) (s after : State) : Prop where
  broadcasts : ∀ conn index bs,
    after.Broadcasts conn index bs ↔ s.Broadcasts conn index bs
  publisher : ∀ conn,
    (after.conns conn).publisherStreamName =
        (s.conns conn).publisherStreamName ∧
      (after.conns conn).publisherStreamId = (s.conns conn).publisherStreamId
  providers : ∀ conn index bs name, s.Broadcasts conn index bs →
    bs.livePipe = some name →
      after.providers (scopeOf conn, name) = s.providers (scopeOf conn, name)
  entryOf : ∀ name,
    after.idLookupTable.entryOf name = s.idLookupTable.entryOf name

theorem SameBroadcasts.publishedBy (same : s.SameBroadcasts scopeOf after)
    (conn : Nat) (name : JavaString) :
    after.PublishedBy conn name ↔ s.PublishedBy conn name := by
  simp only [PublishedBy, same.broadcasts]

theorem Consistent.of_sameBroadcasts
    (consistent : s.Consistent scopeOf bGenKaraoke)
    (same : s.SameBroadcasts scopeOf after) :
    after.Consistent scopeOf bGenKaraoke where
  mixed := by
    intro name
    simp only [same.publishedBy, same.entryOf]
    exact consistent.mixed name
  owned := by
    intro conn index bs broadcasts
    have before := (same.broadcasts conn index bs).mp broadcasts
    obtain ⟨name, owned⟩ := consistent.owned conn index bs before
    obtain ⟨sameName, sameId⟩ := same.publisher conn
    refine ⟨name, owned.livePipe, ?_, ?_, owned.provider, ?_⟩
    · rw [sameName]
      exact owned.publisherStreamName
    · rw [sameId]
      exact owned.publisherStreamId
    · rw [same.providers conn index bs name before owned.livePipe]
      exact owned.providers
  oneConn := by
    intro name conn other ordinary published publishedToo
    exact consistent.oneConn name conn other ordinary
      ((same.publishedBy conn name).mp published)
      ((same.publishedBy other name).mp publishedToo)

/-- At most the stream at one place has left the scopes. -/
structure Unsubscribes (scopeOf : Nat → Nat) (s : State) (conn index : Nat)
    (u : State) : Prop where
  conns : u.conns = s.conns
  idLookupTable : u.idLookupTable = s.idLookupTable
  providers : ∀ other i bs name, s.Broadcasts other i bs →
    bs.livePipe = some name → ¬ (other = conn ∧ i = index) →
      u.providers (scopeOf other, name) = s.providers (scopeOf other, name)

/-- A connection publishes one stream at a time. -/
theorem Consistent.index_eq (consistent : s.Consistent scopeOf bGenKaraoke)
    {conn i j : Nat} {bs bt : ClientBroadcastStream}
    (first : s.Broadcasts conn i bs) (second : s.Broadcasts conn j bt) :
    i = j := by
  obtain ⟨name, owned⟩ := consistent.owned conn i bs first
  obtain ⟨other, ownedToo⟩ := consistent.owned conn j bt second
  have sameId := owned.publisherStreamId.symm.trans ownedToo.publisherStreamId
  omega

section DeleteStream

variable {conn index : Nat} {stream : ClientStream}

theorem Consistent.owned_of_deletes
    (consistent : s.Consistent scopeOf bGenKaraoke)
    (unsubscribed : s.Unsubscribes scopeOf conn index u)
    (deleted : u.Deletes conn index after) {other i : Nat}
    {bs : ClientBroadcastStream} (broadcasts : after.Broadcasts other i bs) :
    ∃ name, after.Owned scopeOf other i bs name := by
  obtain ⟨before, notDeleted⟩ := (deleted.broadcasts other i bs).mp broadcasts
  rw [Broadcasts, unsubscribed.conns] at before
  obtain ⟨name, owned⟩ := consistent.owned other i bs before
  obtain ⟨sameName, sameId⟩ := deleted.publisher other
  rw [unsubscribed.conns] at sameName sameId
  refine ⟨name, owned.livePipe, ?_, ?_, owned.provider, ?_⟩
  · rw [sameName]
    exact owned.publisherStreamName
  · rw [sameId]
    exact owned.publisherStreamId
  · rw [deleted.providers, unsubscribed.providers other i bs name before
      owned.livePipe notDeleted]
    exact owned.providers

theorem published_of_deletes
    (unsubscribed : s.Unsubscribes scopeOf conn index u)
    (deleted : u.Deletes conn index after) {other : Nat} {name : JavaString} :
    after.PublishedBy other name ↔
      ∃ i bs, (s.Broadcasts other i bs ∧ bs.livePipe = some name) ∧
        ¬ (other = conn ∧ i = index) := by
  simp only [PublishedBy, deleted.broadcasts]
  simp only [Broadcasts, unsubscribed.conns]
  constructor
  · rintro ⟨i, bs, ⟨broadcasts, notDeleted⟩, isLive⟩
    exact ⟨i, bs, ⟨broadcasts, isLive⟩, notDeleted⟩
  · rintro ⟨i, bs, ⟨broadcasts, isLive⟩, notDeleted⟩
    exact ⟨i, bs, ⟨broadcasts, notDeleted⟩, isLive⟩

/-- A name that the deleted stream is not live under is published as before. -/
theorem publishedBy_of_deletes
    (unsubscribed : s.Unsubscribes scopeOf conn index u)
    (deleted : u.Deletes conn index after) {name : JavaString}
    (elsewhere : ∀ bs, s.Broadcasts conn index bs → bs.livePipe ≠ some name)
    (other : Nat) : s.PublishedBy other name ↔ after.PublishedBy other name := by
  rw [published_of_deletes unsubscribed deleted]
  constructor
  · rintro ⟨i, bs, broadcasts, isLive⟩
    refine ⟨i, bs, ⟨broadcasts, isLive⟩, ?_⟩
    rintro ⟨sameConn, sameIndex⟩
    rw [sameConn, sameIndex] at broadcasts
    exact elsewhere bs broadcasts isLive
  · rintro ⟨i, bs, ⟨broadcasts, isLive⟩, -⟩
    exact ⟨i, bs, broadcasts, isLive⟩

/-- The entry of a stream goes with the stream. -/
theorem Consistent.mixed_of_deletes_broadcast
    (consistent : s.Consistent scopeOf bGenKaraoke)
    (unsubscribed : s.Unsubscribes scopeOf conn index u)
    (deleted : u.Deletes conn index after) {bs : ClientBroadcastStream}
    (broadcasts : s.Broadcasts conn index bs) :
    after.MixedAsPublished bGenKaraoke := by
  obtain ⟨live, owned⟩ := consistent.owned conn index bs broadcasts
  have entries : ∀ name, after.idLookupTable.entryOf name =
      if name = live then none else s.idLookupTable.entryOf name := by
    intro name
    rw [deleted.entryOf, unsubscribed.conns, unsubscribed.idLookupTable,
      owned.publisherStreamId, owned.publisherStreamName]
    simp [eq_comm]
  intro name
  rw [entries]
  by_cases same : name = live
  · rw [if_pos same]
    constructor
    · rintro ⟨-, isEntry⟩
      exact absurd rfl isEntry
    · rintro ⟨ordinary, other, published⟩
      obtain ⟨i, bt, ⟨before, isLive⟩, notDeleted⟩ :=
        (published_of_deletes unsubscribed deleted).mp published
      rw [same] at ordinary isLive
      have sameConn := consistent.oneConn live other conn ordinary
        ⟨i, bt, before, isLive⟩ ⟨index, bs, broadcasts, owned.livePipe⟩
      rw [sameConn] at before
      exact absurd ⟨sameConn, consistent.index_eq before broadcasts⟩ notDeleted
  · rw [if_neg same, consistent.mixed name]
    apply and_congr_right
    intro _
    apply exists_congr
    apply publishedBy_of_deletes unsubscribed deleted
    intro bt before isLive
    rw [Broadcasts, before] at broadcasts
    cases broadcasts
    exact same (Option.some.inj (isLive.symm.trans owned.livePipe))

/-- A stream that plays goes without an entry. -/
theorem Consistent.mixed_of_deletes_subscriber
    (consistent : s.Consistent scopeOf bGenKaraoke)
    (unsubscribed : s.Unsubscribes scopeOf conn index u)
    (deleted : u.Deletes conn index after)
    (plays : (s.conns conn).streams.lookup index = some .playlistSubscriber)
    (clean : s.remembersMixed conn (index + 1) = false) :
    after.MixedAsPublished bGenKaraoke := by
  have entries : ∀ name, after.idLookupTable.entryOf name =
      s.idLookupTable.entryOf name := by
    intro name
    rw [deleted.entryOf, unsubscribed.conns, unsubscribed.idLookupTable]
    split
    · rename_i remembered
      rw [remembersMixed, remembered.1, remembered.2] at clean
      simp at clean
      rw [clean]
    · rfl
  intro name
  rw [entries, consistent.mixed name]
  apply and_congr_right
  intro _
  apply exists_congr
  apply publishedBy_of_deletes unsubscribed deleted
  intro bt before
  rw [Broadcasts, plays] at before
  cases before

/-- Where a stream that plays goes with an entry, another stream goes on under
the name. -/
theorem Consistent.lost_of_plays
    (consistent : s.Consistent scopeOf bGenKaraoke) {name : JavaString}
    (plays : (s.conns conn).streams.lookup index = some .playlistSubscriber)
    (remembered : (s.conns conn).publisherStreamId = index + 1 ∧
      (s.conns conn).publisherStreamName = some name)
    (notInternal : name ∉ GroupMixer.internalNames bGenKaraoke)
    (isEntry : s.idLookupTable.entryOf name ≠ none) :
    (s.deleteStreamById conn (index + 1)).idLookupTable.entryOf name = none ∧
      ∃ other, (s.deleteStreamById conn (index + 1)).PublishedBy other name :=
    by
  have deleted := deletes plays
  obtain ⟨-, other, i, bs, broadcasts, isLive⟩ :=
    (consistent.mixed name).mp ⟨notInternal, isEntry⟩
  constructor
  · rw [deleted.entryOf, if_pos remembered]
  · refine ⟨other, i, bs, ?_, isLive⟩
    rw [deleted.broadcasts]
    refine ⟨broadcasts, ?_⟩
    rintro ⟨sameConn, sameIndex⟩
    rw [Broadcasts, sameConn, sameIndex, plays] at broadcasts
    cases broadcasts

theorem Consistent.deleteStreamById
    (consistent : s.Consistent scopeOf bGenKaraoke)
    (unsubscribed : s.Unsubscribes scopeOf conn index u)
    (clean : s.playsOnRemembered conn (index + 1) = false) :
    (u.deleteStreamById conn (index + 1)).Consistent scopeOf bGenKaraoke := by
  cases found : (s.conns conn).streams.lookup index with
  | none =>
      rw [deleteStreamById_of_none]
      · apply consistent.of_sameBroadcasts
        refine ⟨?_, ?_, ?_, ?_⟩
        · intro other i bs
          rw [Broadcasts, unsubscribed.conns, Broadcasts]
        · intro other
          rw [unsubscribed.conns]
          exact ⟨rfl, rfl⟩
        · intro other i bs name broadcasts isLive
          apply unsubscribed.providers other i bs name broadcasts isLive
          rintro ⟨sameConn, sameIndex⟩
          rw [Broadcasts, sameConn, sameIndex, found] at broadcasts
          cases broadcasts
        · intro name
          rw [unsubscribed.idLookupTable]
      · rw [getStreamById_of_index, unsubscribed.conns]
        exact found
  | some stream =>
      have foundThere : (u.conns conn).streams.lookup index = some stream := by
        rw [unsubscribed.conns]
        exact found
      have deleted := deletes foundThere
      refine ⟨?_, ?_, ?_⟩
      · cases stream with
        | broadcast bs =>
            exact consistent.mixed_of_deletes_broadcast unsubscribed deleted
              found
        | playlistSubscriber =>
            apply consistent.mixed_of_deletes_subscriber unsubscribed deleted
              found
            rw [playsOnRemembered, getStreamById_of_index, found] at clean
            simpa using clean
      · intro other i bs broadcasts
        exact consistent.owned_of_deletes unsubscribed deleted broadcasts
      · intro name first second ordinary published publishedToo
        obtain ⟨i, bs, before, -⟩ :=
          (published_of_deletes unsubscribed deleted).mp published
        obtain ⟨j, bt, beforeToo, -⟩ :=
          (published_of_deletes unsubscribed deleted).mp publishedToo
        exact consistent.oneConn name first second ordinary ⟨i, bs, before⟩
          ⟨j, bt, beforeToo⟩

theorem Unsubscribes.refl (s : State) (conn index : Nat) :
    s.Unsubscribes scopeOf conn index s :=
  ⟨rfl, rfl, fun _ _ _ _ _ _ _ => rfl⟩

/-- Only its own provider is taken from a scope. -/
theorem Unsubscribes.unsubscribe
    (unsubscribed : s.Unsubscribes scopeOf conn index u)
    (consistent : s.Consistent scopeOf bGenKaraoke)
    {bs : ClientBroadcastStream} (broadcasts : s.Broadcasts conn index bs)
    (scope : Nat × JavaString) :
    s.Unsubscribes scopeOf conn index (u.unsubscribe scope bs.provider) where
  conns := unsubscribed.conns
  idLookupTable := unsubscribed.idLookupTable
  providers := by
    intro other i bt name before isLive notDeleted
    have kept := unsubscribed.providers other i bt name before isLive notDeleted
    rw [State.unsubscribe]
    dsimp only
    by_cases same : (scopeOf other, name) = scope
    · obtain ⟨_, ownedHere⟩ := consistent.owned conn index bs broadcasts
      obtain ⟨live, owned⟩ := consistent.owned other i bt before
      have isName := Option.some.inj (isLive.symm.trans owned.livePipe)
      rw [← isName] at owned
      have differs : bt.provider ≠ bs.provider := by
        intro sameProvider
        apply notDeleted
        obtain ⟨connection, streamId⟩ := owned.provider
        obtain ⟨connectionHere, streamIdHere⟩ := ownedHere.provider
        rw [sameProvider] at connection streamId
        exact ⟨connection.symm.trans connectionHere, by omega⟩
      rw [← same, Function.update_self, kept, owned.providers]
      simp [differs]
    · rw [Function.update_of_ne same]
      exact kept

theorem Unsubscribes.closeBroadcast
    (unsubscribed : s.Unsubscribes scopeOf conn index u)
    (consistent : s.Consistent scopeOf bGenKaraoke)
    {bs : ClientBroadcastStream} (broadcasts : s.Broadcasts conn index bs) :
    s.Unsubscribes scopeOf conn index (u.closeBroadcast scopeOf conn bs) := by
  rw [State.closeBroadcast]
  split
  · exact unsubscribed.unsubscribe consistent broadcasts _
  · exact unsubscribed

theorem Unsubscribes.closeClientStream
    (consistent : s.Consistent scopeOf bGenKaraoke)
    (found : (s.conns conn).streams.lookup index = some stream)
    (closed : s.closeClientStream scopeOf conn stream = some u) :
    s.Unsubscribes scopeOf conn index u := by
  cases stream with
  | broadcast bs =>
      rw [State.closeClientStream] at closed
      split at closed
      · cases closed
      · cases closed
        exact (Unsubscribes.refl s conn index).closeBroadcast consistent found
  | playlistSubscriber =>
      cases closed
      exact Unsubscribes.refl s conn index

end DeleteStream

/-! ## The connections of the same streams -/

section SetConn

variable {conn : Nat} {c : RTMPConnection}

theorem sameBroadcasts_setConn
    (streams : ∀ index bs, c.streams.lookup index = some (.broadcast bs) ↔
      s.Broadcasts conn index bs)
    (publisher : c.publisherStreamName = (s.conns conn).publisherStreamName ∧
      c.publisherStreamId = (s.conns conn).publisherStreamId) :
    s.SameBroadcasts scopeOf (s.setConn conn c) where
  broadcasts := by
    intro other index bs
    rw [Broadcasts]
    by_cases same : other = conn
    · rw [same, setConn_self]
      exact streams index bs
    · rw [setConn_ne s _ same, Broadcasts]
  publisher := by
    intro other
    by_cases same : other = conn
    · rw [same, setConn_self]
      exact publisher
    · rw [setConn_ne s _ same]
      exact ⟨rfl, rfl⟩
  providers := by
    intro other index bs name _ _
    rfl
  entryOf := by
    intro name
    rfl

theorem Consistent.createStream
    (consistent : s.Consistent scopeOf bGenKaraoke) (conn : Nat) :
    (s.createStream conn).Consistent scopeOf bGenKaraoke :=
  consistent.of_sameBroadcasts
    (sameBroadcasts_setConn (fun _ _ => Iff.rfl) ⟨rfl, rfl⟩)

theorem Consistent.unreserveStreamId {streamId : Int}
    (consistent :
      (s.deleteStreamById conn streamId).Consistent scopeOf bGenKaraoke) :
    (s.unreserveStreamId conn streamId).Consistent scopeOf bGenKaraoke := by
  rw [State.unreserveStreamId]
  dsimp only
  split
  · exact consistent.of_sameBroadcasts
      (sameBroadcasts_setConn (fun _ _ => Iff.rfl) ⟨rfl, rfl⟩)
  · exact consistent

end SetConn

/-! ## Closing -/

section Close

variable {conn : Nat} {streamId : Int}

theorem Consistent.closeStream
    (consistent : s.Consistent scopeOf bGenKaraoke)
    (clean : s.playsOnRemembered conn streamId = false)
    (closed : s.closeStream scopeOf conn streamId = some after) :
    after.Consistent scopeOf bGenKaraoke := by
  rw [State.closeStream] at closed
  split at closed
  · rename_i stream found
    obtain ⟨index, isId, isStream⟩ := getStreamById_eq_some.mp found
    obtain ⟨u, closedStream, isAfter⟩ := Option.map_eq_some_iff.mp closed
    rw [isId] at clean isAfter
    rw [← isAfter]
    exact consistent.deleteStreamById
      (Unsubscribes.closeClientStream consistent isStream closedStream) clean
  · cases closed
    exact consistent

theorem Consistent.deleteStream
    (consistent : s.Consistent scopeOf bGenKaraoke)
    (clean : s.playsOnRemembered conn streamId = false)
    (deleted : s.deleteStream scopeOf conn streamId = some after) :
    after.Consistent scopeOf bGenKaraoke := by
  rw [State.deleteStream] at deleted
  split at deleted
  · rename_i stream found
    obtain ⟨index, isId, isStream⟩ := getStreamById_eq_some.mp found
    obtain ⟨u, closedStream, isAfter⟩ := Option.map_eq_some_iff.mp deleted
    rw [isId] at clean isAfter
    rw [← isAfter]
    exact (consistent.deleteStreamById
      (Unsubscribes.closeClientStream consistent isStream closedStream)
      clean).unreserveStreamId
  · rename_i missing
    cases deleted
    apply Consistent.unreserveStreamId
    rw [deleteStreamById_of_none missing]
    exact consistent

/-- Only a stream that broadcasts is unpublished. -/
theorem Consistent.unpublish
    (consistent : s.Consistent scopeOf bGenKaraoke) :
    (s.unpublish scopeOf conn streamId).Consistent scopeOf bGenKaraoke := by
  rw [State.unpublish]
  split
  · rename_i bs found
    split
    · obtain ⟨index, isId, isStream⟩ := getStreamById_eq_some.mp found
      have clean : s.playsOnRemembered conn (index + 1) = false := by
        rw [playsOnRemembered, getStreamById_of_index, isStream]
        rfl
      rw [isId]
      exact consistent.deleteStreamById
        (((Unsubscribes.refl s conn index).unsubscribe consistent isStream
          _).closeBroadcast consistent isStream) clean
    · exact consistent
  · exact consistent

/-! ## Closing a connection -/

theorem closeClientStream_frame {stream : ClientStream}
    (closed : s.closeClientStream scopeOf conn stream = some u) :
    u.conns = s.conns ∧ u.idLookupTable = s.idLookupTable := by
  cases stream with
  | broadcast bs =>
      rw [State.closeClientStream] at closed
      split at closed
      · cases closed
      · cases closed
        rw [closeBroadcast]
        split
        · exact ⟨rfl, rfl⟩
        · exact ⟨rfl, rfl⟩
  | playlistSubscriber =>
      cases closed
      exact ⟨rfl, rfl⟩

/-- One stream is gone, and entries may have gone with it. -/
structure Loses (s : State) (conn index : Nat) (after : State) : Prop where
  streams : ∀ i, (after.conns conn).streams.lookup i =
    if i = index then none else (s.conns conn).streams.lookup i
  publisher : (after.conns conn).publisherStreamName =
      (s.conns conn).publisherStreamName ∧
    (after.conns conn).publisherStreamId = (s.conns conn).publisherStreamId
  entryOf : ∀ name, after.idLookupTable.entryOf name = none ∨
    after.idLookupTable.entryOf name = s.idLookupTable.entryOf name

theorem Deletes.loses {index : Nat} (deleted : s.Deletes conn index after) :
    s.Loses conn index after where
  streams := by
    intro i
    rw [deleted.conns, setConn_self]
    by_cases same : i = index
    · rw [if_pos same, same]
      exact AList.lookup_erase _ _
    · rw [if_neg same]
      exact AList.lookup_erase_ne same
  publisher := deleted.publisher conn
  entryOf := by
    intro name
    rw [deleted.entryOf]
    split
    · exact .inl rfl
    · exact .inr rfl

theorem loses_unreserveStreamId (s : State) (conn index : Nat) :
    s.Loses conn index (s.unreserveStreamId conn (index + 1)) := by
  have lost : s.Loses conn index (s.deleteStreamById conn (index + 1)) := by
    cases found : (s.conns conn).streams.lookup index with
    | none =>
        rw [deleteStreamById_of_none]
        · refine ⟨?_, ⟨rfl, rfl⟩, fun _ => .inr rfl⟩
          intro i
          split
          · rename_i same
            rw [same, found]
          · rfl
        · rw [getStreamById_of_index]
          exact found
    | some stream => exact (deletes found).loses
  rw [State.unreserveStreamId]
  dsimp only
  rw [if_pos (by omega)]
  refine ⟨?_, ?_, lost.entryOf⟩
  · rw [setConn_self]
    exact lost.streams
  · rw [setConn_self]
    exact lost.publisher

theorem Loses.of_frame {index : Nat} (lost : u.Loses conn index after)
    (conns : u.conns = s.conns) (table : u.idLookupTable = s.idLookupTable) :
    s.Loses conn index after := by
  obtain ⟨streams, publisher, entryOf⟩ := lost
  rw [conns] at streams publisher
  rw [table] at entryOf
  exact ⟨streams, publisher, entryOf⟩

theorem loses_deleteStream {index : Nat}
    (deleted : s.deleteStream scopeOf conn (index + 1) = some after) :
    s.Loses conn index after := by
  rw [State.deleteStream] at deleted
  split at deleted
  · obtain ⟨u, closedStream, isAfter⟩ := Option.map_eq_some_iff.mp deleted
    obtain ⟨conns, table⟩ := closeClientStream_frame closedStream
    rw [← isAfter]
    exact (loses_unreserveStreamId u conn index).of_frame conns table
  · cases deleted
    exact loses_unreserveStreamId s conn index

/-- Deleting one stream does not make another one play on the remembered
id. -/
theorem Loses.playsOnRemembered {index : Nat}
    (lost : s.Loses conn index after) {i : Nat}
    (clean : s.playsOnRemembered conn (i + 1) = false) :
    after.playsOnRemembered conn (i + 1) = false := by
  rw [State.playsOnRemembered, getStreamById_of_index] at clean ⊢
  rw [lost.streams i]
  split
  · rfl
  · rw [remembersMixed] at clean ⊢
    rw [lost.publisher.1, lost.publisher.2]
    cases isName : (s.conns conn).publisherStreamName with
    | none => simp
    | some name =>
        rw [isName] at clean
        rcases lost.entryOf name with gone | kept
        · simp [gone]
        · simpa [kept] using clean

theorem Consistent.deleteStreams (order : List Nat) :
    ∀ s : State, s.Consistent scopeOf bGenKaraoke →
      (∀ index ∈ order, s.playsOnRemembered conn (index + 1) = false) →
        (deleteStreams scopeOf conn order s).2.Consistent scopeOf bGenKaraoke
      := by
  induction order with
  | nil =>
      intro s consistent _
      exact consistent
  | cons index rest inductionHypothesis =>
      intro s consistent clean
      rw [State.deleteStreams]
      split
      · rename_i next deleted
        apply inductionHypothesis
        · exact consistent.deleteStream (clean index List.mem_cons_self) deleted
        · intro i member
          exact (loses_deleteStream deleted).playsOnRemembered
            (clean i (List.mem_cons_of_mem _ member))
      · exact consistent

/-- When no exception ends the call, the streams are gone. -/
theorem lookup_deleteStreams (order : List Nat) :
    ∀ s : State, (deleteStreams scopeOf conn order s).1 = true →
      ∀ i, i ∈ order ∨ (s.conns conn).streams.lookup i = none →
        ((deleteStreams scopeOf conn order s).2.conns conn).streams.lookup i =
          none := by
  induction order with
  | nil =>
      intro s _ i gone
      rcases gone with member | missing
      · cases member
      · exact missing
  | cons index rest inductionHypothesis =>
      intro s through i gone
      rw [State.deleteStreams] at through ⊢
      split at through
      · rename_i next deleted
        apply inductionHypothesis next through i
        by_cases same : i = index
        · right
          rw [(loses_deleteStream deleted).streams, if_pos same]
        · rcases gone with member | missing
          · rcases List.mem_cons.mp member with isHead | isLater
            · exact absurd isHead same
            · exact .inl isLater
          · right
            rw [(loses_deleteStream deleted).streams, if_neg same, missing]
      · cases through

theorem Consistent.close (consistent : s.Consistent scopeOf bGenKaraoke)
    {order : List Nat} (all : order.Perm (s.conns conn).streams.keys)
    (clean : ∀ index ∈ (s.conns conn).streams.keys,
      s.playsOnRemembered conn (index + 1) = false) :
    (s.close scopeOf conn order).Consistent scopeOf bGenKaraoke := by
  have kept := consistent.deleteStreams order s
    (fun index member => clean index (all.mem_iff.mp member))
  have gone := @lookup_deleteStreams scopeOf conn order s
  rw [State.close]
  split
  · rename_i next deleted
    rw [deleted] at kept gone
    apply kept.of_sameBroadcasts
    apply sameBroadcasts_setConn
    · intro i bs
      have missing : (next.conns conn).streams.lookup i = none := by
        apply gone rfl
        by_cases member : i ∈ order
        · exact .inl member
        · right
          rw [AList.lookup_eq_none]
          intro known
          exact member (all.mem_iff.mpr (AList.mem_keys.mp known))
      rw [Broadcasts, missing]
      constructor
      · intro found
        cases found
      · intro found
        cases found
    · exact ⟨rfl, rfl⟩
  · rename_i next deleted
    rw [deleted] at kept
    exact kept

end Close

end Consistent

end State

end StreamService

end GroupVoip
