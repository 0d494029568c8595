import GroupVoip.PublishedNames

/-!
# The table over whole runs

Playing and publishing keep the names of the table those that are published,
and so does every run of the clients' messages.
-/

namespace GroupVoip

open Library.Runs

namespace StreamService

namespace State

section Consistent

variable {scopeOf : Nat → Nat} {bGenKaraoke : Bool} {s after : State}

/-! ## Playing -/

section Play

variable {conn : Nat} {streamId : Int}

theorem isValidStreamId_iff {c : RTMPConnection} :
    c.isValidStreamId streamId = true ↔
      ∃ index : Nat, streamId = index + 1 ∧ index ∈ c.reservedStreams ∧
        c.streams.lookup index = none := by
  rw [RTMPConnection.isValidStreamId]
  constructor
  · intro valid
    split at valid
    · cases valid
    · rename_i reserved
      rw [not_or, not_not] at reserved
      refine ⟨(streamId - 1).toNat, by omega, reserved.2, ?_⟩
      exact Option.isNone_iff_eq_none.mp valid
  · rintro ⟨index, isId, reserved, missing⟩
    have position : (streamId - 1).toNat = index := by omega
    rw [position, if_neg, missing]
    · rfl
    · rw [not_or, not_not]
      exact ⟨by omega, reserved⟩

/-- A new stream that plays is on an id that was free. -/
theorem newPlaylistSubscriberStream_eq_some (scopeOf : Nat → Nat)
    (created : s.newPlaylistSubscriberStream conn streamId = some after) :
    ∃ index : Nat, streamId = index + 1 ∧
      (s.conns conn).isValidStreamId streamId = true ∧
      s.SameBroadcasts scopeOf after ∧
      after.remembersMixed conn streamId = s.remembersMixed conn streamId := by
  rw [newPlaylistSubscriberStream] at created
  split at created
  · rename_i valid
    obtain ⟨index, isId, -, missing⟩ := isValidStreamId_iff.mp valid
    have position : (streamId - 1).toNat = index := by omega
    cases created
    refine ⟨index, isId, valid, ?_, ?_⟩
    · apply sameBroadcasts_setConn
      · intro i bs
        rw [RTMPConnection.registerStream, Broadcasts, position]
        dsimp only
        by_cases same : i = index
        · rw [same, AList.lookup_insert, missing]
          simp
        · rw [AList.lookup_insert_ne same]
      · exact ⟨rfl, rfl⟩
    · rw [remembersMixed, setConn_self]
      rfl
  · cases created

theorem Consistent.play (consistent : s.Consistent scopeOf bGenKaraoke)
    {name : JavaString} {isPlaybackAllowed failsToPlay : Bool}
    (clean : name ≠ [] → isPlaybackAllowed = true → failsToPlay = true →
      (0 < streamId → (s.conns conn).isValidStreamId streamId = true) →
        s.remembersMixed conn (s.playedId conn streamId) = false) :
    (s.play conn streamId name isPlaybackAllowed failsToPlay).Consistent
      scopeOf bGenKaraoke := by
  rw [State.play]
  split
  · exact consistent
  · rename_i admitted
    rw [not_or] at admitted
    split
    · exact consistent
    · dsimp only
      generalize isReserved :
        (if streamId ≤ 0 then s.createStream conn else s) = u
      have kept : u.Consistent scopeOf bGenKaraoke ∧
          ∀ id, u.remembersMixed conn id = s.remembersMixed conn id := by
        rw [← isReserved]
        split
        · refine ⟨consistent.createStream conn, ?_⟩
          intro id
          rw [remembersMixed, State.createStream, setConn_self]
          rfl
        · exact ⟨consistent, fun _ => rfl⟩
      split
      · rename_i next created
        obtain ⟨index, isId, valid, same, remembers⟩ :=
          newPlaylistSubscriberStream_eq_some scopeOf created
        have registered := kept.1.of_sameBroadcasts same
        split
        · rename_i fails
          have notRemembered :
              next.remembersMixed conn (s.playedId conn streamId) = false := by
            rw [remembers, kept.2]
            apply clean admitted.1 (by simpa using admitted.2) fails
            intro positive
            rw [if_neg (by omega)] at isReserved
            rw [← isReserved, playedId, if_neg (by omega)] at valid
            exact valid
          rw [isId] at notRemembered ⊢
          apply registered.deleteStreamById (Unsubscribes.refl next conn index)
          rw [playsOnRemembered, notRemembered, Bool.and_false]
        · exact registered
      · exact kept.1

end Play

/-! ## Publishing -/

section Publish

variable {conn index : Nat} {name : JavaString} {bs : ClientBroadcastStream}

/-- What a publish does that goes through. -/
structure Publishes (scopeOf : Nat → Nat) (s : State) (conn index : Nat)
    (name : JavaString) (bs : ClientBroadcastStream) (after : State) :
    Prop where
  broadcasts : ∀ other i bt, after.Broadcasts other i bt ↔
    if other = conn ∧ i = index then bt = bs else s.Broadcasts other i bt
  publisher : (after.conns conn).publisherStreamName = some name ∧
    (after.conns conn).publisherStreamId = index + 1
  others : ∀ other, other ≠ conn → after.conns other = s.conns other
  providers : after.providers =
    Function.update s.providers (scopeOf conn, name)
      (s.providers (scopeOf conn, name) ++ [bs.provider])
  entryOf : ∀ m, m ≠ name ∨
      name.contains GroupMixer.MIXED_STREAM_PREFIX = true →
    after.idLookupTable.entryOf m = s.idLookupTable.entryOf m
  created : name.contains GroupMixer.MIXED_STREAM_PREFIX = false →
    after.idLookupTable.entryOf name ≠ none
  livePipe : bs.livePipe = some name
  provider : bs.provider.connection = conn ∧ bs.provider.streamId = index + 1

/-- A publish that goes through finds its scope without a provider, and does
not take a stream from a name that is in the table. -/
structure Admitted (scopeOf : Nat → Nat) (bGenKaraoke : Bool) (s : State)
    (conn index : Nat) (name : JavaString) : Prop where
  free : s.providers (scopeOf conn, name) = []
  notInternal : name ∉ GroupMixer.internalNames bGenKaraoke
  keepsName : ∀ old live, s.Broadcasts conn index old →
    old.livePipe = some live →
      live.contains GroupMixer.MIXED_STREAM_PREFIX = true
  oneScope : name.contains GroupMixer.MIXED_STREAM_PREFIX = false →
    ∀ other, s.PublishedBy other name → scopeOf other = scopeOf conn

/-- The provider of a published name is in the scope. -/
theorem Consistent.not_publishedBy
    (consistent : s.Consistent scopeOf bGenKaraoke) {scope : Nat}
    (free : s.providers (scope, name) = []) {other : Nat}
    (sameScope : scopeOf other = scope) : ¬ s.PublishedBy other name := by
  rintro ⟨i, bt, broadcasts, isLive⟩
  obtain ⟨live, owned⟩ := consistent.owned other i bt broadcasts
  have isName := Option.some.inj (isLive.symm.trans owned.livePipe)
  have providers := owned.providers
  rw [sameScope, ← isName, free] at providers
  cases providers

section Publishes

variable (consistent : s.Consistent scopeOf bGenKaraoke)
  (admitted : s.Admitted scopeOf bGenKaraoke conn index name)
  (publishes : s.Publishes scopeOf conn index name bs after)

include consistent admitted in
theorem Admitted.not_publishedBy
    (ordinary : name.contains GroupMixer.MIXED_STREAM_PREFIX = false)
    (other : Nat) : ¬ s.PublishedBy other name := by
  intro published
  exact consistent.not_publishedBy admitted.free
    (admitted.oneScope ordinary other published) published

include publishes in
theorem Publishes.publishedBy_self : after.PublishedBy conn name := by
  refine ⟨index, bs, ?_, publishes.livePipe⟩
  rw [publishes.broadcasts, if_pos ⟨rfl, rfl⟩]

include admitted publishes in
/-- The other names stay published as they were. -/
theorem Publishes.publishedBy_iff {m : JavaString} (differs : m ≠ name)
    (ordinary : m.contains GroupMixer.MIXED_STREAM_PREFIX = false)
    (other : Nat) : after.PublishedBy other m ↔ s.PublishedBy other m := by
  constructor
  · rintro ⟨i, bt, broadcasts, isLive⟩
    rw [publishes.broadcasts] at broadcasts
    split at broadcasts
    · rw [broadcasts, publishes.livePipe] at isLive
      exact absurd (Option.some.inj isLive).symm differs
    · exact ⟨i, bt, broadcasts, isLive⟩
  · rintro ⟨i, bt, broadcasts, isLive⟩
    refine ⟨i, bt, ?_, isLive⟩
    rw [publishes.broadcasts, if_neg]
    · exact broadcasts
    · rintro ⟨sameConn, sameIndex⟩
      rw [sameConn, sameIndex] at broadcasts
      have mixed := admitted.keepsName bt m broadcasts isLive
      rw [ordinary] at mixed
      cases mixed

include consistent admitted publishes in
theorem Publishes.mixed : after.MixedAsPublished bGenKaraoke := by
  intro m
  by_cases same : m = name
  · rw [same]
    cases isMixed : name.contains GroupMixer.MIXED_STREAM_PREFIX with
    | false =>
        exact iff_of_true
          ⟨admitted.notInternal, publishes.created isMixed⟩
          ⟨rfl, conn, publishes.publishedBy_self⟩
    | true =>
        apply iff_of_false
        · rintro ⟨notInternal, isEntry⟩
          rw [publishes.entryOf name (.inr isMixed)] at isEntry
          have ordinary :=
            ((consistent.mixed name).mp ⟨notInternal, isEntry⟩).1
          rw [isMixed] at ordinary
          cases ordinary
        · rintro ⟨ordinary, -⟩
          cases ordinary
  · rw [publishes.entryOf m (.inl same), consistent.mixed m]
    apply and_congr_right
    intro ordinary
    apply exists_congr
    intro other
    exact (publishes.publishedBy_iff admitted same ordinary other).symm

include consistent admitted publishes in
theorem Publishes.oneConn {m : JavaString}
    (ordinary : m.contains GroupMixer.MIXED_STREAM_PREFIX = false)
    {other : Nat} (published : after.PublishedBy other m) :
    (m = name ∧ other = conn) ∨ (m ≠ name ∧ s.PublishedBy other m) := by
  by_cases same : m = name
  · left
    refine ⟨same, ?_⟩
    rw [same] at ordinary published
    obtain ⟨i, bt, broadcasts, isLive⟩ := published
    rw [publishes.broadcasts] at broadcasts
    split at broadcasts
    · rename_i here
      exact here.1
    · exact absurd ⟨i, bt, broadcasts, isLive⟩
        (admitted.not_publishedBy consistent ordinary other)
  · right
    exact ⟨same,
      (publishes.publishedBy_iff admitted same ordinary other).mp published⟩

include consistent admitted publishes in
theorem Publishes.owned
    (oneLive : ∀ i bt, after.Broadcasts conn i bt → bt.livePipe.isSome = true →
      i = index)
    {other i : Nat} {bt : ClientBroadcastStream}
    (broadcasts : after.Broadcasts other i bt) :
    ∃ live, after.Owned scopeOf other i bt live := by
  have found := broadcasts
  rw [publishes.broadcasts] at broadcasts
  split at broadcasts
  · rename_i here
    rw [here.1, here.2, broadcasts]
    refine ⟨name, publishes.livePipe, publishes.publisher.1,
      publishes.publisher.2, publishes.provider, ?_⟩
    rw [publishes.providers, Function.update_self, admitted.free,
      List.nil_append]
  · rename_i elsewhere
    obtain ⟨live, owned⟩ := consistent.owned other i bt broadcasts
    have differs : other ≠ conn := by
      intro same
      apply elsewhere
      refine ⟨same, ?_⟩
      rw [same] at found
      apply oneLive i bt found
      rw [owned.livePipe]
      rfl
    refine ⟨live, owned.livePipe, ?_, ?_, owned.provider, ?_⟩
    · rw [publishes.others other differs]
      exact owned.publisherStreamName
    · rw [publishes.others other differs]
      exact owned.publisherStreamId
    · rw [publishes.providers]
      by_cases sameScope : (scopeOf other, live) = (scopeOf conn, name)
      · have providers := owned.providers
        rw [sameScope, admitted.free] at providers
        cases providers
      · rw [Function.update_of_ne sameScope]
        exact owned.providers

include consistent admitted publishes in
theorem Publishes.staysConsistent
    (oneLive : ∀ i bt, after.Broadcasts conn i bt → bt.livePipe.isSome = true →
      i = index) :
    after.Consistent scopeOf bGenKaraoke where
  mixed := publishes.mixed consistent admitted
  owned := by
    intro other i bt broadcasts
    exact publishes.owned consistent admitted oneLive broadcasts
  oneConn := by
    intro m first second ordinary published publishedToo
    have one := publishes.oneConn consistent admitted ordinary published
    have two := publishes.oneConn consistent admitted ordinary publishedToo
    rcases one with ⟨isName, isConn⟩ | ⟨differs, before⟩
    · rcases two with ⟨-, isConnToo⟩ | ⟨differs, -⟩
      · exact isConn.trans isConnToo.symm
      · exact absurd isName differs
    · rcases two with ⟨isName, -⟩ | ⟨-, beforeToo⟩
      · exact absurd isName differs
      · exact consistent.oneConn m first second ordinary before beforeToo

end Publishes

/-- The stream that a publish finds or makes. -/
theorem broadcastStream_eq_some {streamId : Int} {u : State}
    (found : s.broadcastStream conn streamId = some (bs, u)) :
    ∃ index : Nat, streamId = index + 1 ∧ u.conns = s.conns ∧
      u.idLookupTable = s.idLookupTable ∧ u.providers = s.providers ∧
      (s.Broadcasts conn index bs ∨
        bs.provider.connection = conn ∧ bs.provider.streamId = index + 1 ∧
          (s.conns conn).streams.lookup index = none) := by
  rw [broadcastStream] at found
  split at found
  · rename_i old isStream
    obtain ⟨index, isId, broadcasts⟩ := getStreamById_eq_some.mp isStream
    cases found
    exact ⟨index, isId, rfl, rfl, rfl, .inl broadcasts⟩
  · cases found
  · rw [newBroadcastStream] at found
    split at found
    · rename_i valid
      obtain ⟨index, isId, -, missing⟩ := isValidStreamId_iff.mp valid
      cases found
      exact ⟨index, isId, rfl, rfl, rfl, .inr ⟨rfl, isId, missing⟩⟩
    · cases found

theorem setPublishedName_provider (bs : ClientBroadcastStream)
    (name : JavaString) :
    (bs.setPublishedName name).provider = bs.provider := by
  rw [ClientBroadcastStream.setPublishedName]
  split
  · rfl
  · rfl

/-- The stream as it is published. -/
def live (bs : ClientBroadcastStream) (name : JavaString) :
    ClientBroadcastStream :=
  { bs.setPublishedName name with livePipe := some name }

/-- The state before the table is asked for an entry. -/
def published (scopeOf : Nat → Nat) (u : State) (conn : Nat) (streamId : Int)
    (name : JavaString) (bs : ClientBroadcastStream) : State :=
  let u := u.registerBroadcastStream scopeOf conn streamId name bs
  u.setPublisherStreamInfo conn name streamId

theorem published_conns (u : State) (name : JavaString)
    (bs : ClientBroadcastStream) :
    (u.published scopeOf conn (index + 1) name bs).conns =
      (u.setConn conn
        { u.conns conn with
          streams := (u.conns conn).streams.insert index
            (.broadcast (live bs name))
          publisherStreamName := some name
          publisherStreamId := index + 1 }).conns := by
  have position : ((index : Int) + 1 - 1).toNat = index := by omega
  funext other
  rw [published, setPublisherStreamInfo]
  by_cases same : other = conn
  · rw [same, setConn_self, setConn_self, registerBroadcastStream]
    dsimp only
    rw [setConn_self, RTMPConnection.registerStream, position]
    rfl
  · rw [setConn_ne _ _ same, setConn_ne _ _ same, registerBroadcastStream]
    exact setConn_ne u _ same

theorem published_broadcasts {u : State} (conns : u.conns = s.conns)
    (name : JavaString) (bs : ClientBroadcastStream) (other i : Nat)
    (bt : ClientBroadcastStream) :
    (u.published scopeOf conn (index + 1) name bs).Broadcasts other i bt ↔
      if other = conn ∧ i = index then bt = live bs name
      else s.Broadcasts other i bt := by
  rw [Broadcasts, published_conns]
  by_cases same : other = conn
  · rw [same, setConn_self]
    dsimp only
    by_cases sameIndex : i = index
    · rw [sameIndex, AList.lookup_insert, if_pos ⟨rfl, rfl⟩]
      simp [eq_comm]
    · rw [AList.lookup_insert_ne sameIndex, conns, if_neg, Broadcasts]
      exact fun here => sameIndex here.2
  · rw [setConn_ne u _ same, conns, if_neg, Broadcasts]
    exact fun here => same here.1

theorem Consistent.publishes (consistent : s.Consistent scopeOf bGenKaraoke)
    {u : State} {streamId : Int}
    (found : s.broadcastStream conn streamId = some (bs, u)) :
    ∃ index : Nat, streamId = index + 1 ∧
      (∀ old, s.Broadcasts conn index old → old = bs) ∧
      s.Publishes scopeOf conn index name (live bs name)
        (if name.contains GroupMixer.MIXED_STREAM_PREFIX then
          u.published scopeOf conn streamId name bs
        else
          (u.published scopeOf conn streamId name bs).createMixedStream
            name) := by
  obtain ⟨index, isId, conns, table, providers, isStream⟩ :=
    broadcastStream_eq_some found
  have provider :
      bs.provider.connection = conn ∧ bs.provider.streamId = index + 1 := by
    rcases isStream with broadcasts | ⟨isConn, isStreamId, -⟩
    · obtain ⟨_, owned⟩ := consistent.owned conn index bs broadcasts
      exact owned.provider
    · exact ⟨isConn, isStreamId⟩
  have sameProvider : (live bs name).provider = bs.provider :=
    setPublishedName_provider bs name
  rw [isId]
  refine ⟨index, rfl, ?_, ?_⟩
  · intro old broadcasts
    rcases isStream with broadcastsToo | ⟨-, -, missing⟩
    · rw [Broadcasts, broadcasts] at broadcastsToo
      cases broadcastsToo
      rfl
    · rw [Broadcasts, missing] at broadcasts
      cases broadcasts
  · generalize isAfter : (if name.contains GroupMixer.MIXED_STREAM_PREFIX = true
      then u.published scopeOf conn (index + 1) name bs
      else (u.published scopeOf conn (index + 1) name bs).createMixedStream
        name) = after
    have sameConns : after.conns =
        (u.published scopeOf conn (index + 1) name bs).conns := by
      rw [← isAfter]
      split
      · rfl
      · rfl
    have sameProviders : after.providers =
        (u.published scopeOf conn (index + 1) name bs).providers := by
      rw [← isAfter]
      split
      · rfl
      · rfl
    refine ⟨?_, ?_, ?_, ?_, ?_, ?_, rfl, ?_⟩
    · intro other i bt
      rw [Broadcasts, sameConns]
      exact published_broadcasts conns name bs other i bt
    · rw [sameConns, published_conns, setConn_self]
      exact ⟨rfl, rfl⟩
    · intro other differs
      rw [sameConns, published_conns, setConn_ne u _ differs, conns]
    · rw [sameProviders, ← providers]
      rfl
    · intro m unchanged
      rw [← isAfter, ← table]
      split
      · rfl
      · rename_i notMixed
        rcases unchanged with differs | isMixed
        · exact (IdLookup.creates _ name).entryOf_ne differs
        · exact absurd isMixed notMixed
    · intro ordinary
      rw [← isAfter, ordinary, if_neg Bool.false_ne_true, createMixedStream]
      dsimp only
      rw [(IdLookup.creates _ name).entryOf_self]
      exact Option.some_ne_none _
    · rw [sameProvider]
      exact provider

end Publish

end Consistent

end State

/-! ## Runs -/

def RTMPConnection.publishesAt (c : RTMPConnection) (index : Nat) : Bool :=
  match c.streams.lookup index with
  | some (.broadcast bs) => bs.livePipe.isSome
  | _ => false

/-- At most one stream of the connection is published live. -/
def RTMPConnection.OneLive (c : RTMPConnection) : Prop :=
  (c.streams.keys.filter c.publishesAt).length ≤ 1

instance (c : RTMPConnection) : Decidable c.OneLive :=
  inferInstanceAs (Decidable (_ ≤ _))

theorem RTMPConnection.OneLive.index_eq {c : RTMPConnection} (one : c.OneLive)
    {i j : Nat} (first : c.publishesAt i = true)
    (second : c.publishesAt j = true) : i = j := by
  have member : ∀ {k : Nat}, c.publishesAt k = true →
      k ∈ c.streams.keys.filter c.publishesAt := by
    intro k publishes
    apply List.mem_filter.mpr
    refine ⟨?_, publishes⟩
    rw [← AList.mem_keys, ← AList.lookup_isSome]
    rw [publishesAt] at publishes
    split at publishes
    · rename_i found
      rw [found]
      rfl
    · cases publishes
  rw [OneLive] at one
  have isFirst := member first
  have isSecond := member second
  generalize c.streams.keys.filter c.publishesAt = published at *
  match published with
  | [] => cases isFirst
  | [only] =>
      rw [List.mem_singleton.mp isFirst, List.mem_singleton.mp isSecond]
  | _ :: _ :: _ =>
      simp at one

/-- The stream has no name yet, or a mixed one. -/
def ClientBroadcastStream.isUnmixed (bs : ClientBroadcastStream) : Bool :=
  match bs.livePipe with
  | some name => name.contains GroupMixer.MIXED_STREAM_PREFIX
  | none => true

namespace State

section Conditions

variable (scopeOf : Nat → Nat) (bGenKaraoke : Bool)

/-- What is assumed of the clients: a connection has at most one live stream
after each of its messages. -/
def KeepsOneLive (s : State) (m : Message) : Prop :=
  match s.act scopeOf m with
  | .ok after => (after.conns m.conn).OneLive
  | .error _ => True

instance (s : State) (m : Message) : Decidable (s.KeepsOneLive scopeOf m) :=
  match taken : s.act scopeOf m with
  | .ok after =>
      decidable_of_iff (after.conns m.conn).OneLive <| by
        rw [KeepsOneLive, taken]
  | .error _ =>
      isTrue <| by
        rw [KeepsOneLive, taken]
        trivial

/-- No stream that plays is deleted on the remembered id while the remembered
name is in the table, no internal name is published, and no stream is
published under a second name. -/
def Careful (s : State) : Message → Prop
  | .publish conn streamId name isPublishAllowed allInOnePublishes =>
      match s.admittedName scopeOf conn name isPublishAllowed
          allInOnePublishes, s.broadcastStream conn streamId with
      | some name, some (bs, _) =>
          name ∉ GroupMixer.internalNames bGenKaraoke ∧ bs.isUnmixed = true
      | _, _ => True
  | .closeStream conn streamId => s.playsOnRemembered conn streamId = false
  | .deleteStream conn streamId => s.playsOnRemembered conn streamId = false
  | .play conn streamId name isPlaybackAllowed failsToPlay =>
      name ≠ [] → isPlaybackAllowed = true → failsToPlay = true →
        (0 < streamId → (s.conns conn).isValidStreamId streamId = true) →
          s.remembersMixed conn (s.playedId conn streamId) = false
  | .close conn _ => ∀ index ∈ (s.conns conn).streams.keys,
      s.playsOnRemembered conn (index + 1) = false
  | .createStream _ => True
  | .unpublish _ _ => True

instance (s : State) (m : Message) :
    Decidable (s.Careful scopeOf bGenKaraoke m) :=
  match m with
  | .publish conn streamId name isPublishAllowed allInOnePublishes =>
      match isName : s.admittedName scopeOf conn name isPublishAllowed
          allInOnePublishes, isStream : s.broadcastStream conn streamId with
      | some name, some (bs, _) =>
          decidable_of_iff
            (name ∉ GroupMixer.internalNames bGenKaraoke ∧
              bs.isUnmixed = true) <| by
            rw [Careful, isName, isStream]
      | some _, none =>
          isTrue <| by
            rw [Careful, isName, isStream]
            trivial
      | none, _ =>
          isTrue <| by
            rw [Careful, isName]
            trivial
  | .closeStream _ _ => inferInstanceAs (Decidable (_ = _))
  | .deleteStream _ _ => inferInstanceAs (Decidable (_ = _))
  | .play _ _ _ _ _ => inferInstanceAs (Decidable (_ → _))
  | .close _ _ => inferInstanceAs (Decidable (∀ _ ∈ _, _))
  | .createStream _ => isTrue trivial
  | .unpublish _ _ => isTrue trivial

/-- No name is published while a connection of another scope publishes it. -/
def InOneScope (s : State) : Message → Prop
  | .publish conn streamId name isPublishAllowed allInOnePublishes =>
      match s.admittedName scopeOf conn name isPublishAllowed
          allInOnePublishes, s.broadcastStream conn streamId with
      | some name, some _ =>
          name.contains GroupMixer.MIXED_STREAM_PREFIX = false →
            ∀ other, s.PublishedBy other name → scopeOf other = scopeOf conn
      | _, _ => True
  | _ => True

end Conditions

variable {scopeOf : Nat → Nat} {bGenKaraoke : Bool} {s after : State}

theorem admittedName_free {conn : Nat} {name admitted : JavaString}
    {isPublishAllowed allInOnePublishes : Bool}
    (isName : s.admittedName scopeOf conn name isPublishAllowed
      allInOnePublishes = some admitted) :
    s.providers (scopeOf conn, admitted) = [] := by
  rw [admittedName] at isName
  split at isName
  · split at isName
    · cases isName
    · rename_i allowed
      cases isName
      by_contra taken
      exact allowed (.inr (.inr (.inl taken)))
  · cases isName

theorem Consistent.publish (consistent : s.Consistent scopeOf bGenKaraoke)
    {conn : Nat} {streamId : Int} {name : JavaString}
    {isPublishAllowed allInOnePublishes : Bool}
    (careful : s.Careful scopeOf bGenKaraoke
      (.publish conn streamId name isPublishAllowed allInOnePublishes))
    (inOneScope : s.InOneScope scopeOf
      (.publish conn streamId name isPublishAllowed allInOnePublishes))
    (oneLive : ((s.publish scopeOf conn streamId name isPublishAllowed
      allInOnePublishes).conns conn).OneLive) :
    (s.publish scopeOf conn streamId name isPublishAllowed
      allInOnePublishes).Consistent scopeOf bGenKaraoke := by
  rw [Careful] at careful
  rw [InOneScope] at inOneScope
  cases isName : s.admittedName scopeOf conn name isPublishAllowed
      allInOnePublishes with
  | none =>
      rw [State.publish, isName]
      exact consistent
  | some admitted =>
      cases isStream : s.broadcastStream conn streamId with
      | none =>
          rw [State.publish, isName, isStream]
          exact consistent
      | some found =>
          obtain ⟨bs, u⟩ := found
          rw [isName, isStream] at careful inOneScope
          have isAfter : s.publish scopeOf conn streamId name isPublishAllowed
              allInOnePublishes =
              if admitted.contains GroupMixer.MIXED_STREAM_PREFIX then
                u.published scopeOf conn streamId admitted bs
              else
                (u.published scopeOf conn streamId admitted
                  bs).createMixedStream admitted := by
            rw [State.publish, isName, isStream]
            rfl
          rw [isAfter] at oneLive ⊢
          obtain ⟨index, isId, same, publishes⟩ :=
            @Consistent.publishes _ _ _ _ admitted _ consistent _ _ isStream
          refine publishes.staysConsistent consistent ?_ ?_
          · refine ⟨admittedName_free isName, careful.1, ?_, inOneScope⟩
            intro old live broadcasts isLive
            have unmixed := careful.2
            rw [← same old broadcasts, ClientBroadcastStream.isUnmixed,
              isLive] at unmixed
            exact unmixed
          · intro i bt broadcasts isLive
            have here := (publishes.broadcasts conn index _).mpr
              (by rw [if_pos ⟨rfl, rfl⟩])
            apply oneLive.index_eq
            · rw [RTMPConnection.publishesAt, broadcasts]
              exact isLive
            · rw [RTMPConnection.publishesAt, here]
              rfl

theorem act_cases {m : Message} (acted : s.act scopeOf m = .ok after) :
    after = s ∨ (after = s.handle scopeOf m ∧ ∀ conn order,
      m = .close conn order → order.Perm (s.conns conn).streams.keys) := by
  cases m with
  | close conn order =>
      rw [State.act] at acted
      split at acted
      · cases acted
        exact .inl rfl
      · split at acted
        · rename_i all
          cases acted
          right
          refine ⟨rfl, ?_⟩
          rintro _ _ ⟨⟩
          exact all
        · cases acted
  | _ =>
      simp only [State.act] at acted
      split at acted
      · cases acted
        exact .inl rfl
      · cases acted
        right
        refine ⟨rfl, ?_⟩
        rintro _ _ ⟨⟩

theorem Consistent.act (consistent : s.Consistent scopeOf bGenKaraoke)
    {m : Message} (oneLive : s.KeepsOneLive scopeOf m)
    (inOneScope : s.InOneScope scopeOf m)
    (careful : s.Careful scopeOf bGenKaraoke m)
    (acted : s.act scopeOf m = .ok after) :
    after.Consistent scopeOf bGenKaraoke := by
  rw [KeepsOneLive, acted] at oneLive
  rcases act_cases acted with unchanged | ⟨handled, closes⟩
  · rw [unchanged]
    exact consistent
  · rw [handled] at oneLive ⊢
    cases m with
    | createStream conn => exact consistent.createStream conn
    | publish conn streamId name isPublishAllowed allInOnePublishes =>
        exact consistent.publish careful inOneScope oneLive
    | unpublish conn streamId => exact consistent.unpublish
    | closeStream conn streamId =>
        rw [handle]
        cases closed : s.closeStream scopeOf conn streamId with
        | none => exact consistent
        | some next => exact consistent.closeStream careful closed
    | deleteStream conn streamId =>
        rw [handle]
        cases deleted : s.deleteStream scopeOf conn streamId with
        | none => exact consistent
        | some next => exact consistent.deleteStream careful deleted
    | play conn streamId name isPlaybackAllowed failsToPlay =>
        exact consistent.play careful
    | close conn order =>
        exact consistent.close (closes conn order rfl) careful

theorem createMixedStreams (names : List JavaString) :
    ∀ s : State, (names.foldl createMixedStream s).conns = s.conns ∧
      ∀ name, (names.foldl createMixedStream s).idLookupTable.entryOf name ≠
        none → name ∈ names ∨ s.idLookupTable.entryOf name ≠ none := by
  induction names with
  | nil =>
      intro s
      exact ⟨rfl, fun _ isEntry => .inr isEntry⟩
  | cons created rest inductionHypothesis =>
      intro s
      obtain ⟨conns, entries⟩ :=
        inductionHypothesis (s.createMixedStream created)
      refine ⟨conns, ?_⟩
      intro name isEntry
      rcases entries name isEntry with isLater | isNow
      · exact .inl (List.mem_cons_of_mem _ isLater)
      · by_cases same : name = created
        · rw [same]
          exact .inl List.mem_cons_self
        · right
          rw [createMixedStream, (IdLookup.creates _ created).entryOf_ne same]
            at isNow
          exact isNow

/-- At the start the names of the table are the internal ones. -/
theorem consistent_start :
    (start bGenKaraoke).Consistent scopeOf bGenKaraoke := by
  obtain ⟨conns, entries⟩ :=
    createMixedStreams (GroupMixer.internalNames bGenKaraoke) {}
  have noStream : ∀ conn index bs,
      ¬ (start bGenKaraoke).Broadcasts conn index bs := by
    intro conn index bs broadcasts
    rw [Broadcasts, start, conns] at broadcasts
    cases broadcasts
  refine ⟨?_, ?_, ?_⟩
  · intro name
    apply iff_of_false
    · rintro ⟨notInternal, isEntry⟩
      rcases entries name isEntry with isInternal | isOld
      · exact notInternal isInternal
      · exact isOld rfl
    · rintro ⟨-, conn, index, bs, broadcasts, -⟩
      exact noStream conn index bs broadcasts
  · intro conn index bs broadcasts
    exact absurd broadcasts (noStream conn index bs)
  · intro name conn other _ published
    obtain ⟨index, bs, broadcasts, -⟩ := published
    exact absurd broadcasts (noStream conn index bs)

end State

/-- In a run whose connections have one live stream each, whose messages are
careful and whose names are published in one scope at a time, the names of
the table are those of the published streams. -/
theorem table_publishedNames (scopeOf : Nat → Nat) (bGenKaraoke : Bool)
    {messages : List Message} {final : State}
    (reached : run (State.act scopeOf) (State.start bGenKaraoke) messages =
      .ok final)
    (oneLive : EveryStep (State.act scopeOf) (State.KeepsOneLive scopeOf)
      (State.start bGenKaraoke) messages)
    (inOneScope : EveryStep (State.act scopeOf) (State.InOneScope scopeOf)
      (State.start bGenKaraoke) messages)
    (careful : EveryStep (State.act scopeOf)
      (State.Careful scopeOf bGenKaraoke) (State.start bGenKaraoke) messages) :
    final.MixedAsPublished bGenKaraoke := by
  refine (run_invariant_of_everyStep (State.Consistent scopeOf bGenKaraoke)
    ?_ State.consistent_start ((oneLive.and inOneScope).and careful)
    reached).mixed
  rintro s m next consistent ⟨⟨keepsOne, oneScope⟩, isCareful⟩ acted
  exact consistent.act keepsOne oneScope isCareful acted

theorem inOneScope_of_const (scope : Nat) (s : State) (m : Message) :
    s.InOneScope (fun _ => scope) m := by
  cases m with
  | publish conn streamId name isPublishAllowed allInOnePublishes =>
      rw [State.InOneScope]
      split
      · intro _ _ _
        rfl
      · trivial
  | _ => trivial

/-- Two clients take turns with a name, and a third plays and publishes. -/
def takingTurns : List Message :=
  [.createStream 0, .publish 0 1 [120] true false, .createStream 1,
    .play 1 1 [120] true false, .closeStream 1 1, .createStream 1,
    .publish 1 2 [121] true false, .unpublish 0 1, .createStream 2,
    .publish 2 1 [120] true false, .play 0 1 [120] true false, .close 1 [1]]

theorem table_publishedNames_takingTurns :
    ∃ final, run (State.act fun _ => 0) (State.start true) takingTurns =
        .ok final ∧
      final.MixedAsPublished true := by
  have succeeds :
      (run (State.act fun _ => 0) (State.start true) takingTurns).isOk =
        true := by
    decide +kernel
  obtain ⟨final, reached⟩ := exists_ok succeeds
  refine ⟨final, reached, table_publishedNames (fun _ => 0) true reached ?_ ?_
    ?_⟩
  · decide +kernel
  · rw [ everyStep_iff_forall_prefix]
    intro _ m _ s _ _
    exact inOneScope_of_const 0 s m
  · decide +kernel

/-- A client publishes a name and closes the stream, another publishes the
name, and the first one plays on its old id and closes that stream. -/
def playingOnOldId : List Message :=
  [.createStream 0, .publish 0 1 [120] true false, .closeStream 0 1,
    .createStream 1, .publish 1 1 [120] true false, .play 0 1 [121] true false,
    .closeStream 0 1]

/-- The entry of the second client is removed while it publishes. -/
theorem table_loses_publishedName :
    ∃ final, run (State.act fun _ => 0) (State.start false) playingOnOldId =
        .ok final ∧
      EveryStep (State.act fun _ => 0) (State.KeepsOneLive fun _ => 0)
        (State.start false) playingOnOldId ∧
      final.PublishedBy 1 [120] ∧
      ¬ final.MixedAsPublished false := by
  have ends :
      (run (State.act fun _ => 0) (State.start false) playingOnOldId).map
          (fun s => (s.idLookupTable.entryOf [120],
            (s.conns 1).streams.lookup 0)) =
        .ok (none, some (.broadcast ⟨⟨1, 1, 1⟩, some [120], some [120]⟩)) := by
    decide +kernel
  obtain ⟨final, reached, isEnd⟩ := map_ok.mp ends
  obtain ⟨noEntry, broadcasts⟩ := Prod.mk.inj isEnd
  have published : final.PublishedBy 1 [120] := ⟨0, _, broadcasts, rfl⟩
  have oneLive : EveryStep (State.act fun _ => 0)
      (State.KeepsOneLive fun _ => 0) (State.start false) playingOnOldId := by
    decide +kernel
  refine ⟨final, reached, oneLive, published, ?_⟩
  intro mixed
  have ordinary :
      JavaString.contains [120] GroupMixer.MIXED_STREAM_PREFIX = false := by
    decide +kernel
  exact ((mixed [120]).mpr ⟨ordinary, 1, published⟩).2 noEntry

end StreamService

end GroupVoip
