import GroupVoip.IdLookup
import GroupVoip.Library.Runs

/-!
# Selecting a song

Clients select songs while the karaoke thread goes from song to song.  Both
store into `curSongFile_` and `curSongName_` without a lock: a selection
stores the file it has looked up, and the thread stores the default song right
after it has read the file of the song it is about to play.
-/

namespace GroupVoip

open Library.Runs

namespace SongSelection

def defaultSong : JavaString := .ascii "Default"

/-- How far a call of `selectSong` has come. -/
inductive SelectStage where
  | lookedUp
  | fileStored
  | nameStored
  | completed
deriving DecidableEq, Repr

structure SelectCall where
  songName : JavaString
  fileName : JavaString
  stage : SelectStage
deriving DecidableEq, Repr

/-- What the karaoke thread does next. -/
inductive ThreadPoint where
  | announce
  | readFile
  | storeDefaultFile
  | storeDefaultName
  | play
  | resetCancel
deriving DecidableEq, Repr

/-- A call of `loadASong`: the file whose name was read, and the file of the
selection that was due, if there was one. -/
structure Load where
  fileName : JavaString
  due : Option JavaString
deriving DecidableEq, Repr

/-- The fields of the generator, the calls of `selectSong` in the order in
which they started, and the history of the thread. -/
structure State where
  songMappingTable : JavaString → Option JavaString
  curSongFile : JavaString
  curSongName : JavaString
  bCancelCurrentSong : Bool := false
  thread : ThreadPoint := .announce
  calls : List SelectCall := []
  announced : List JavaString := []
  loads : List Load := []
  /-- A file name was read since the latest call completed. -/
  readSince : Bool := false

/-- Why the song that is played comes to its end. -/
inductive SongEnd where
  | played
  | cancelled
  | thrown
deriving DecidableEq, Repr

/-- The atomic steps: those of the selections, by the number of the call, and
those of the thread. -/
inductive Step where
  | selectSong (songName : JavaString)
  | storeFile (call : Nat)
  | storeName (call : Nat)
  | setCancel (call : Nat)
  | announce
  | readFile
  | storeDefaultFile
  | storeDefaultName
  | endSong (how : SongEnd)
  | resetCancel
deriving DecidableEq, Repr

namespace State

variable (s : State)

/-- The call that has started last. -/
def latest : Option SelectCall :=
  s.calls[s.calls.length - 1]?

/-- A selection that has completed, without a later one, and has not been read
yet. -/
def due : Option JavaString :=
  match s.latest with
  | some c =>
      if c.stage = .completed ∧ s.readSince = false then some c.fileName
      else none
  | none => none

def atStage (call : Nat) (stage : SelectStage) : Option SelectCall :=
  s.calls[call]?.filter fun c => c.stage = stage

def setStage (call : Nat) (c : SelectCall) (stage : SelectStage) : State :=
  { s with calls := s.calls.set call { c with stage := stage } }

def isLatest (call : Nat) : Bool :=
  call + 1 = s.calls.length

/-- `selectSong` looks the name up, and returns if it is not there. -/
def selectSong (songName : JavaString) : State :=
  match s.songMappingTable songName with
  | none => s
  | some fileName =>
      { s with calls := s.calls ++ [⟨songName, fileName, .lookedUp⟩] }

def storeFile (call : Nat) : Except Unit State :=
  match s.atStage call .lookedUp with
  | none => .error ()
  | some c =>
      .ok { s.setStage call c .fileStored with curSongFile := c.fileName }

def storeName (call : Nat) : Except Unit State :=
  match s.atStage call .fileStored with
  | none => .error ()
  | some c =>
      .ok { s.setStage call c .nameStored with curSongName := c.songName }

def setCancel (call : Nat) : Except Unit State :=
  match s.atStage call .nameStored with
  | none => .error ()
  | some c =>
      .ok { s.setStage call c .completed with
        bCancelCurrentSong := true
        readSince := if s.isLatest call then false else s.readSince }

/-- The end of `loadASong`.  Only the loop that plays the song looks at the
cancel flag, and an exception skips the reset. -/
def endSong : SongEnd → Except Unit State
  | .played => .ok { s with thread := .resetCancel }
  | .cancelled =>
      if s.bCancelCurrentSong then .ok { s with thread := .resetCancel }
      else .error ()
  | .thrown => .ok { s with thread := .announce }

/-- The steps of the thread, where it is. -/
def threadStep : ThreadPoint → Step → Except Unit State
  | .announce, .announce =>
      .ok { s with
        announced := s.announced ++ [s.curSongName], thread := .readFile }
  | .readFile, .readFile =>
      .ok { s with
        loads := s.loads ++ [⟨s.curSongFile, s.due⟩]
        readSince := true
        thread := .storeDefaultFile }
  | .storeDefaultFile, .storeDefaultFile =>
      .ok { s with curSongFile := defaultSong, thread := .storeDefaultName }
  | .storeDefaultName, .storeDefaultName =>
      .ok { s with curSongName := defaultSong, thread := .play }
  | .play, .endSong how => s.endSong how
  | .resetCancel, .resetCancel =>
      .ok { s with bCancelCurrentSong := false, thread := .announce }
  | _, _ => .error ()

def act : Step → Except Unit State
  | .selectSong songName => .ok (s.selectSong songName)
  | .storeFile call => s.storeFile call
  | .storeName call => s.storeName call
  | .setCancel call => s.setCancel call
  | a => s.threadStep s.thread a

end State

/-- The generator after its constructor. -/
def State.start (songMappingTable : JavaString → Option JavaString)
    (curSongFile curSongName : JavaString) : State where
  songMappingTable := songMappingTable
  curSongFile := curSongFile
  curSongName := curSongName

/-- Every call of `loadASong` that should play a selection plays it. -/
def State.NoneLost (s : State) : Prop :=
  ∀ load ∈ s.loads, ∀ fileName, load.due = some fileName →
    load.fileName = fileName

/-- The latest selection has stored its file, and the thread has not read it
since the selection completed. -/
def State.awaited (s : State) : Option JavaString :=
  match s.latest with
  | some c =>
      if c.stage = .lookedUp ∨ c.stage = .completed ∧ s.readSince = true then
        none
      else some c.fileName
  | none => none

/-- The file that a step stores, unless it is the latest selection that stores
it. -/
def State.overwrites (s : State) : Step → Option JavaString
  | .storeDefaultFile => some defaultSong
  | .storeFile call =>
      if s.isLatest call then none
      else (s.atStage call .lookedUp).map SelectCall.fileName
  | _ => none

/-- No step overwrites a selection that is still to be read. -/
def State.Undisturbed (s : State) (a : Step) : Prop :=
  ∀ fileName ∈ s.overwrites a, ∀ wanted ∈ s.awaited, fileName = wanted

instance (s : State) (a : Step) : Decidable (s.Undisturbed a) :=
  inferInstanceAs (Decidable (∀ _ ∈ _, ∀ _ ∈ _, _ = _))

/-! ## What the steps keep -/

namespace State

variable {s s' : State} {call : Nat} {c : SelectCall}

theorem atStage_some {stage : SelectStage}
    (found : s.atStage call stage = some c) :
    s.calls[call]? = some c ∧ c.stage = stage := by
  rw [atStage, Option.filter_eq_some_iff] at found
  exact ⟨found.1, of_decide_eq_true found.2⟩

theorem latest_setStage {stage stage' : SelectStage}
    (found : s.atStage call stage = some c) :
    (s.setStage call c stage').latest =
      if s.isLatest call then some { c with stage := stage' }
      else s.latest := by
  obtain ⟨here, -⟩ := atStage_some found
  obtain ⟨inside, -⟩ := List.getElem?_eq_some_iff.mp here
  rw [latest, setStage, List.length_set, List.getElem?_set]
  by_cases isLast : call + 1 = s.calls.length
  · rw [if_pos (by omega), if_pos inside, isLatest,
      if_pos (by simpa using isLast)]
  · rw [if_neg (by omega), isLatest, if_neg (by simpa using isLast)]
    rfl

theorem latest_of_isLatest {stage : SelectStage}
    (found : s.atStage call stage = some c) (isLast : s.isLatest call = true) :
    s.latest = some c := by
  have last : call + 1 = s.calls.length := of_decide_eq_true isLast
  rw [latest, ← last, Nat.add_sub_cancel]
  exact (atStage_some found).1

theorem awaited_congr (latest : s'.latest = s.latest)
    (readSince : s'.readSince = s.readSince) : s'.awaited = s.awaited := by
  rw [awaited, awaited, latest, readSince]

/-- A selection that is due is awaited. -/
theorem awaited_of_due {fileName : JavaString}
    (due : s.due = some fileName) : s.awaited = some fileName := by
  rw [State.due] at due
  rw [awaited]
  cases last : s.latest with
  | none =>
      rw [last] at due
      cases due
  | some c =>
      rw [last] at due
      dsimp only at due ⊢
      by_cases unread : c.stage = .completed ∧ s.readSince = false
      · rw [if_pos unread] at due
        rw [if_neg (by simp [unread.1, unread.2])]
        exact due
      · rw [if_neg unread] at due
        cases due

/-- The file of an awaited selection is the one the thread will read. -/
structure Inv (s : State) : Prop where
  awaited : ∀ wanted ∈ s.awaited, s.curSongFile = wanted
  noneLost : s.NoneLost

theorem Inv.selectSong (inv : s.Inv) (songName : JavaString) :
    (s.selectSong songName).Inv := by
  rw [State.selectSong]
  cases s.songMappingTable songName with
  | none => exact inv
  | some fileName =>
      refine ⟨?_, inv.noneLost⟩
      simp [State.awaited, latest]

theorem Inv.storeFile (inv : s.Inv)
    (undisturbed : s.Undisturbed (.storeFile call))
    (stepped : s.storeFile call = .ok s') : s'.Inv := by
  rw [State.storeFile] at stepped
  cases found : s.atStage call .lookedUp with
  | none =>
      rw [found] at stepped
      cases stepped
  | some c =>
      rw [found] at stepped
      cases stepped
      refine ⟨?_, inv.noneLost⟩
      intro wanted waits
      have latest := @latest_setStage s call c .lookedUp .fileStored found
      by_cases isLast : s.isLatest call = true
      · rw [if_pos isLast] at latest
        rw [State.awaited] at waits
        change wanted ∈ (match (s.setStage call c .fileStored).latest with
          | some c => _
          | none => none) at waits
        rw [latest] at waits
        simpa using waits
      · rw [if_neg isLast] at latest
        have same : wanted ∈ s.awaited := by
          rw [← awaited_congr latest rfl]
          exact waits
        refine undisturbed c.fileName ?_ wanted same
        rw [overwrites, if_neg isLast, found]
        rfl

/-- A step from one stage to the next, behind the store of the file. -/
theorem awaited_setStage {stage stage' : SelectStage}
    (found : s.atStage call stage = some c)
    (stored : stage = .fileStored ∨ stage = .nameStored)
    (latest : s'.latest = (s.setStage call c stage').latest)
    (readSince : s'.readSince =
      if s.isLatest call ∧ stage' = .completed then false else s.readSince)
    (stored' : stage' ≠ .lookedUp) : s'.awaited = s.awaited := by
  rw [latest_setStage found] at latest
  by_cases isLast : s.isLatest call = true
  · have before := latest_of_isLatest found isLast
    have stage_eq := (atStage_some found).2
    rw [if_pos isLast] at latest
    rw [awaited, awaited, latest, before]
    have unread : ¬ (c.stage = .lookedUp ∨
        c.stage = .completed ∧ s.readSince = true) := by
      rcases stored with rfl | rfl <;> simp [stage_eq]
    have unread' : ¬ (stage' = .lookedUp ∨
        stage' = .completed ∧ s'.readSince = true) := by
      rintro (early | ⟨completed, read⟩)
      · exact stored' early
      · rw [readSince, if_pos ⟨isLast, completed⟩] at read
        cases read
    dsimp only
    rw [if_neg unread, if_neg unread']
  · rw [if_neg isLast] at latest
    rw [if_neg (by simp [isLast])] at readSince
    exact awaited_congr latest readSince

theorem Inv.laterStage (inv : s.Inv) {stage : SelectStage}
    (stage' : SelectStage) (found : s.atStage call stage = some c)
    (stored : stage = .fileStored ∨ stage = .nameStored)
    (stored' : stage' ≠ .lookedUp)
    (latest : s'.latest = (s.setStage call c stage').latest)
    (curSongFile : s'.curSongFile = s.curSongFile)
    (loads : s'.loads = s.loads)
    (readSince : s'.readSince =
      if s.isLatest call ∧ stage' = .completed then false else s.readSince) :
    s'.Inv := by
  constructor
  · rw [awaited_setStage found stored latest readSince stored', curSongFile]
    exact inv.awaited
  · rw [NoneLost, loads]
    exact inv.noneLost

theorem Inv.storeName (inv : s.Inv) (stepped : s.storeName call = .ok s') :
    s'.Inv := by
  rw [State.storeName] at stepped
  cases found : s.atStage call .fileStored with
  | none =>
      rw [found] at stepped
      cases stepped
  | some c =>
      rw [found] at stepped
      cases stepped
      exact inv.laterStage .nameStored found (.inl rfl) (by simp) rfl rfl rfl
        (by simp [setStage])

theorem Inv.setCancel (inv : s.Inv) (stepped : s.setCancel call = .ok s') :
    s'.Inv := by
  rw [State.setCancel] at stepped
  cases found : s.atStage call .nameStored with
  | none =>
      rw [found] at stepped
      cases stepped
  | some c =>
      rw [found] at stepped
      cases stepped
      exact inv.laterStage .completed found (.inr rfl) (by simp) rfl rfl rfl
        (by simp)

theorem Inv.readFile (inv : s.Inv) :
    Inv { s with
      loads := s.loads ++ [⟨s.curSongFile, s.due⟩]
      readSince := true
      thread := .storeDefaultFile } := by
  constructor
  · intro wanted waits
    apply inv.awaited
    rw [State.awaited] at waits ⊢
    change wanted ∈ (match s.latest with
      | some c => _
      | none => none) at waits
    cases last : s.latest with
    | none =>
        rw [last] at waits
        cases waits
    | some c =>
        rw [last] at waits
        dsimp only at waits ⊢
        split at waits
        · cases waits
        · rename_i later
          rw [if_neg (by
            rintro (early | ⟨completed, -⟩)
            · exact later (.inl early)
            · exact later (.inr ⟨completed, rfl⟩))]
          exact waits
  · intro load member fileName due
    rcases List.mem_append.mp member with earlier | now
    · exact inv.noneLost load earlier fileName due
    · rw [List.mem_singleton] at now
      rw [now] at due ⊢
      exact inv.awaited fileName (awaited_of_due due)

theorem Inv.threadStep (inv : s.Inv) {a : Step} (undisturbed : s.Undisturbed a)
    (stepped : s.threadStep s.thread a = .ok s') : s'.Inv := by
  cases here : s.thread with
  | announce =>
      rw [here] at stepped
      cases a <;> cases stepped
      exact ⟨inv.awaited, inv.noneLost⟩
  | readFile =>
      rw [here] at stepped
      cases a <;> cases stepped
      exact inv.readFile
  | storeDefaultFile =>
      rw [here] at stepped
      cases a <;> cases stepped
      exact ⟨undisturbed defaultSong rfl, inv.noneLost⟩
  | storeDefaultName =>
      rw [here] at stepped
      cases a <;> cases stepped
      exact ⟨inv.awaited, inv.noneLost⟩
  | play =>
      rw [here] at stepped
      cases a with
      | endSong how =>
          cases how with
          | played =>
              cases stepped
              exact ⟨inv.awaited, inv.noneLost⟩
          | thrown =>
              cases stepped
              exact ⟨inv.awaited, inv.noneLost⟩
          | cancelled =>
              simp only [State.threadStep, endSong] at stepped
              split at stepped
              · cases stepped
                exact ⟨inv.awaited, inv.noneLost⟩
              · cases stepped
      | _ => cases stepped
  | resetCancel =>
      rw [here] at stepped
      cases a <;> cases stepped
      exact ⟨inv.awaited, inv.noneLost⟩

theorem Inv.act (inv : s.Inv) {a : Step} (undisturbed : s.Undisturbed a)
    (stepped : s.act a = .ok s') : s'.Inv := by
  cases a with
  | selectSong songName =>
      cases stepped
      exact inv.selectSong songName
  | storeFile call => exact inv.storeFile undisturbed stepped
  | storeName call => exact inv.storeName stepped
  | setCancel call => exact inv.setCancel stepped
  | _ => exact inv.threadStep undisturbed stepped

end State

/-- In every interleaving without a step that overwrites a selection still to
be read, no selection is lost. -/
theorem selection_notLost {songMappingTable : JavaString → Option JavaString}
    {curSongFile curSongName : JavaString} {steps : List Step} {final : State}
    (undisturbed : EveryStep State.act State.Undisturbed
      (.start songMappingTable curSongFile curSongName) steps)
    (reached : run State.act (.start songMappingTable curSongFile curSongName)
      steps = .ok final) :
    final.NoneLost := by
  have initial :
      (State.start songMappingTable curSongFile curSongName).Inv := by
    constructor
    · intro wanted waits
      cases waits
    · intro load member
      cases member
  have inv := run_invariant_of_everyStep State.Inv
    (fun s a t inv meets stepped => inv.act meets stepped) initial undisturbed
    reached
  exact inv.noneLost

def onlySong : JavaString := .ascii "Song"

/-- The table of one song. -/
def oneSong (songName : JavaString) : Option JavaString :=
  if songName = onlySong then some (.ascii "song1") else none

/-- A selection that is stored while a song is played, and read for the
next. -/
def betweenSongs : List Step :=
  [.announce, .readFile, .storeDefaultFile, .storeDefaultName,
    .selectSong onlySong, .storeFile 0, .storeName 0, .setCancel 0,
    .endSong .cancelled, .resetCancel, .announce, .readFile]

theorem selection_notLost_betweenSongs :
    ∃ final, run State.act (.start oneSong defaultSong defaultSong)
        betweenSongs = .ok final ∧
      final.loads = [⟨defaultSong, none⟩,
        ⟨.ascii "song1", some (.ascii "song1")⟩] ∧
      final.NoneLost := by
  have ran : (run State.act (.start oneSong defaultSong defaultSong)
      betweenSongs).map State.loads = .ok [⟨defaultSong, none⟩,
        ⟨.ascii "song1", some (.ascii "song1")⟩] := by
    decide +kernel
  have undisturbed : EveryStep State.act State.Undisturbed
      (.start oneSong defaultSong defaultSong) betweenSongs := by
    decide +kernel
  obtain ⟨final, reached, loads⟩ := map_ok.mp ran
  exact ⟨final, reached, loads, selection_notLost undisturbed reached⟩

/-- A selection that is stored between the thread's read of the file and its
store of the default song. -/
def whileLoading : List Step :=
  [.announce, .readFile,
    .selectSong onlySong, .storeFile 0, .storeName 0, .setCancel 0,
    .storeDefaultFile, .storeDefaultName,
    .endSong .cancelled, .resetCancel, .announce, .readFile]

theorem selection_lost_whileLoading :
    ∃ final, run State.act (.start oneSong defaultSong defaultSong)
        whileLoading = .ok final ∧
      final.loads = [⟨defaultSong, none⟩,
        ⟨defaultSong, some (.ascii "song1")⟩] ∧
      ¬ final.NoneLost := by
  have ran : (run State.act (.start oneSong defaultSong defaultSong)
      whileLoading).map State.loads = .ok [⟨defaultSong, none⟩,
        ⟨defaultSong, some (.ascii "song1")⟩] := by
    decide +kernel
  obtain ⟨final, reached, loads⟩ := map_ok.mp ran
  refine ⟨final, reached, loads, ?_⟩
  intro noneLost
  have played := noneLost ⟨defaultSong, some (.ascii "song1")⟩ (by
    rw [loads]
    exact List.mem_cons_of_mem _ (List.mem_singleton.mpr rfl)) _ rfl
  exact absurd played (by decide)

end SongSelection

end GroupVoip
