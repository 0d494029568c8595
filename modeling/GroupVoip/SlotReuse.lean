import GroupVoip.SegmentGrammar
import GroupVoip.VideoValidity

/-!
# Slots that are used again

A stream mask that takes a slot offline leaves its queues and its cached
entries as they are.  What of them is left when a later mask brings the slot
back is counted here next to the mixer, and the counts say which of the
frames handed out afterwards belong to the previous publisher.
-/

namespace GroupVoip

open Library.Runs

variable {V A β : Type}

/-! ## What is left of a publisher -/

/-- The entries at the front of a queue that were queued at the last mask
without the slot's bit, those of them that a mask with the bit has followed,
and the same of the entry cached for the slot. -/
structure Remains where
  leaving : Nat := 0
  stale : Nat := 0
  cachedLeaving : Bool := false
  cachedStale : Bool := false
deriving DecidableEq, Repr

namespace Remains

def mask (r : Remains) (online : Bool) (queued : Nat) : Remains :=
  if online then { r with stale := r.leaving, cachedStale := r.cachedLeaving }
  else { r with leaving := queued, cachedLeaving := true }

def take (r : Remains) (entries : Nat) : Remains :=
  { r with leaving := r.leaving - entries, stale := r.stale - entries }

def cache (r : Remains) (entries : Nat) : Remains :=
  if entries = 0 then r
  else { r.take entries with
    cachedLeaving := entries ≤ r.leaving
    cachedStale := entries ≤ r.stale }

end Remains

/-- Streams with what is left in their queues. -/
structure Watched (σ : Type) where
  watched : σ
  audio : Slot → Remains := fun _ => {}
  video : Slot → Remains := fun _ => {}

/-- One effect of the readers, with the counts at each stream mask. -/
def Streams.watchedAct (codecs : Codecs V A) (w : Watched (Streams V A))
    (call : StreamCall) : Except Abort (Watched (Streams V A)) := do
  let p ← w.watched.act codecs call
  match call with
  | .streamMask streamMask =>
      return {
        watched := p
        audio := fun i => (w.audio i).mask (maskBit streamMask i)
          (w.watched.stream i).audioQueue.length
        video := fun i => (w.video i).mask (maskBit streamMask i)
          (w.watched.stream i).videoQueue.length }
  | _ => return { w with watched := p }

/-- What may happen to a mixer, in any order. -/
inductive SlotCall where
  | newInput (inputBuf : SmartBuffer)
  | getOutput
  | getNextAudioFrame (i : Slot)
  | getNextVideoFrame (i : Slot) (timestamp : UInt32)

namespace MixCoder

/-- `getNextAudioFrame` on the queues of the mixer. -/
def getNextAudioFrame (m : MixCoder V A β) (i : Slot) :
    Option AudioRawData × MixCoder V A β :=
  let (a, s) := (m.streams.stream i).getNextAudioFrame
  (a, m.setStreams
    { m.streams with stream := Function.update m.streams.stream i s })

def getNextVideoFrame (m : MixCoder V A β) (i : Slot) (timestamp : UInt32) :
    Option VideoRawData × MixCoder V A β :=
  let (v, s) := (m.streams.stream i).getNextVideoFrame timestamp
  (v, m.setStreams
    { m.streams with stream := Function.update m.streams.stream i s })

end MixCoder

/-- A mixer with what is left in its queues. -/
abbrev WatchedMixer (V A β : Type) : Type :=
  Watched (MixCoder V A β)

namespace WatchedMixer

def start (streamSource : Slot → StreamSource) (output : β) :
    WatchedMixer V A β where
  watched := MixCoder.start streamSource output

def streams (w : WatchedMixer V A β) : Watched (Streams V A) :=
  { w with watched := w.watched.streams }

def readCounts (codecs : Codecs V A) (w : WatchedMixer V A β)
    (inputBuf : SmartBuffer) : Except Abort (Watched (Streams V A)) := do
  let (_, calls) ← w.watched.flvSegParser.readers.calls inputBuf.data
  run (Streams.watchedAct codecs) w.streams calls

def step (codecs : Codecs V A) (backend : Backend β)
    (w : WatchedMixer V A β) : SlotCall → Except Abort (WatchedMixer V A β)
  | .newInput inputBuf => do
      let m ← w.watched.newInput codecs inputBuf
      let counts ← w.readCounts codecs inputBuf
      return { counts with watched := m }
  | .getOutput => do
      let (m, out) ← w.watched.getOutput backend
      return {
        watched := m
        audio := fun i => (w.audio i).cache (out.poppedAudio i).toList.length
        video := fun i => (w.video i).cache (out.poppedVideo i).length }
  | .getNextAudioFrame i =>
      let (a, m) := w.watched.getNextAudioFrame i
      .ok { w with
        watched := m
        audio := Function.update w.audio i
          ((w.audio i).take a.toList.length) }
  | .getNextVideoFrame i timestamp =>
      let (v, m) := w.watched.getNextVideoFrame i timestamp
      .ok { w with
        watched := m
        video := Function.update w.video i
          ((w.video i).take v.toList.length) }

end WatchedMixer

/-! ## What the counts promise -/

/-- No frame of a previous publisher is handed out or marked valid. -/
def ReturnsFresh (backend : Backend β) (w : WatchedMixer V A β) :
    SlotCall → Prop
  | .newInput _ => True
  | .getNextAudioFrame i =>
      ∀ a m, w.watched.getNextAudioFrame i = (some a, m) →
        (w.audio i).stale = 0
  | .getNextVideoFrame i timestamp =>
      ∀ v m, w.watched.getNextVideoFrame i timestamp = (some v, m) →
        (w.video i).stale = 0
  | .getOutput =>
      ∀ m out, w.watched.getOutput backend = .ok (m, out) → ∀ i,
        (out.poppedAudio i ≠ none → (w.audio i).stale = 0) ∧
        (out.poppedVideo i ≠ [] → (w.video i).stale = 0) ∧
        (∀ audioPts, out.instant = .audio audioPts →
          audioValid (m.rawAudioData i) = true →
          ((w.audio i).cache (out.poppedAudio i).toList.length).cachedStale =
            false) ∧
        (∀ videoPts, out.instant = .video videoPts →
          videoValid (m.rawVideoData i) = true →
          ((w.video i).cache (out.poppedVideo i).length).cachedStale = false)

/-- A mask that brings a slot back finds its queues without entries from
before the slot went. -/
def FreesSlots (w : Watched (Streams V A)) : StreamCall → Prop
  | .streamMask streamMask =>
      ∀ i : Fin MAX_XCODING_INSTANCES, Streams.maskBit streamMask i = true →
        (w.audio i).leaving = 0 ∧ (w.video i).leaving = 0
  | _ => True

/-- An entry cached before the slot went is not shown: the slot has something
newer that is due, or its decoder has no picture yet. -/
def HidesCached (w : WatchedMixer V A β) : Instant → Prop
  | .video videoPts =>
      ∀ i : Fin MAX_XCODING_INSTANCES,
        (w.watched.streams.stream i).videoStarted = true →
        (w.watched.rawVideoData i).isSome = true →
        (w.video i).cachedStale = true →
        ((w.watched.streams.stream i).due videoPts).isEmpty = true →
        (w.watched.streams.stream i).videoDecoder.hasFirstFrameDecoded
          videoPts = false
  | _ => True

/-- A question about the result of a call that may stop the program. -/
def IfOk {ε α : Type} (P : α → Prop) : Except ε α → Prop
  | .ok a => P a
  | .error _ => True

def KeepsApart (codecs : Codecs V A) (w : WatchedMixer V A β) :
    SlotCall → Prop
  | .newInput inputBuf =>
      IfOk (fun read => EveryStep (Streams.watchedAct codecs) FreesSlots
          w.streams read.2)
        (w.watched.flvSegParser.readers.calls inputBuf.data)
  | .getOutput =>
      IfOk (fun decided => HidesCached w decided.1)
        w.watched.streams.nextInstant
  | _ => True

section Deciding

instance (w : Watched (Streams V A)) : ∀ call, Decidable (FreesSlots w call)
  | .streamMask streamMask =>
      inferInstanceAs (Decidable (∀ i : Fin MAX_XCODING_INSTANCES,
        Streams.maskBit streamMask i = true →
          (w.audio i).leaving = 0 ∧ (w.video i).leaving = 0))
  | .streamSource _ _ => isTrue trivial
  | .flvTag _ _ => isTrue trivial

instance (w : WatchedMixer V A β) : ∀ instant, Decidable (HidesCached w instant)
  | .video _ =>
      inferInstanceAs (Decidable (∀ _i : Fin MAX_XCODING_INSTANCES,
        _ = true → _ = true → _ = true → _ = true → _ = false))
  | .audio _ => isTrue trivial
  | .none => isTrue trivial

instance {ε α : Type} (P : α → Prop) [DecidablePred P] :
    ∀ x : Except ε α, Decidable (IfOk P x)
  | .ok a => inferInstanceAs (Decidable (P a))
  | .error _ => isTrue trivial

instance (codecs : Codecs V A) (w : WatchedMixer V A β) :
    ∀ call, Decidable (KeepsApart codecs w call)
  | .newInput _ => inferInstanceAs (Decidable (IfOk _ _))
  | .getOutput => inferInstanceAs (Decidable (IfOk _ _))
  | .getNextAudioFrame _ => isTrue trivial
  | .getNextVideoFrame _ _ => isTrue trivial

end Deciding

/-! ## Watching changes nothing -/

theorem Streams.watchedAct_watched (codecs : Codecs V A)
    (w : Watched (Streams V A)) (call : StreamCall) :
    (watchedAct codecs w call).map Watched.watched =
      w.watched.act codecs call := by
  rw [watchedAct]
  cases w.watched.act codecs call with
  | error stopped => rfl
  | ok p => cases call <;> rfl

/-- The counting run ends in the streams that the mixer reads. -/
theorem WatchedMixer.readCounts_watched (codecs : Codecs V A)
    {w : WatchedMixer V A β} {inputBuf : SmartBuffer} {m : MixCoder V A β}
    (fed : w.watched.newInput codecs inputBuf = .ok m) :
    (w.readCounts codecs inputBuf).map Watched.watched = .ok m.streams := by
  obtain ⟨flvSegParser, read, rest⟩ := bind_ok.mp fed
  cases rest
  rw [FLVSegmentParser.readData, InputSide.readData_eq_readBytes] at read
  obtain ⟨calls, called, ran⟩ := readBytes_ok.mp read
  have watched := run_map Watched.watched
    (Streams.watchedAct_watched codecs) w.streams calls
  rw [readCounts, called]
  exact watched.trans ran

/-- The mixer of a watched run is the mixer of the run. -/
theorem WatchedMixer.step_watched (codecs : Codecs V A) (backend : Backend β)
    (w : WatchedMixer V A β) (call : SlotCall) :
    (w.step codecs backend call).map Watched.watched =
      match call with
      | .newInput inputBuf => w.watched.newInput codecs inputBuf
      | .getOutput => (w.watched.getOutput backend).map Prod.fst
      | .getNextAudioFrame i => .ok (w.watched.getNextAudioFrame i).2
      | .getNextVideoFrame i timestamp =>
          .ok (w.watched.getNextVideoFrame i timestamp).2 := by
  cases call with
  | newInput inputBuf =>
      simp only [step]
      cases fed : w.watched.newInput codecs inputBuf with
      | error stopped => rfl
      | ok m =>
          have watched := readCounts_watched codecs fed
          obtain ⟨counts, counted, _⟩ := map_ok.mp watched
          rw [counted]
          rfl
  | getOutput =>
      simp only [step]
      cases w.watched.getOutput backend <;> rfl
  | getNextAudioFrame i => rfl
  | getNextVideoFrame i timestamp => rfl

/-! ## Nothing stale is left -/

/-- Nothing of a previous publisher is left in the queues of its slot. -/
def Watched.Clean {σ : Type} (w : Watched σ) : Prop :=
  ∀ i, (w.audio i).stale = 0 ∧ (w.video i).stale = 0

theorem Remains.mask_stale {r : Remains} {online : Bool} {queued : Nat}
    (clean : r.stale = 0) (freed : online = true → r.leaving = 0) :
    (r.mask online queued).stale = 0 := by
  cases online with
  | false => exact clean
  | true => exact freed rfl

theorem Remains.cache_stale {r : Remains} {entries : Nat}
    (clean : r.stale = 0) : (r.cache entries).stale = 0 := by
  rw [cache]
  split
  · exact clean
  · simp [take, clean]

theorem Streams.watchedAct_clean {codecs : Codecs V A}
    {w w' : Watched (Streams V A)} {call : StreamCall} (clean : w.Clean)
    (frees : FreesSlots w call) (acted : watchedAct codecs w call = .ok w') :
    w'.Clean := by
  obtain ⟨p, _, rest⟩ := bind_ok.mp acted
  cases call with
  | streamMask streamMask =>
      cases rest
      intro i
      constructor
      · apply Remains.mask_stale (clean i).1
        intro online
        exact (frees i online).1
      · apply Remains.mask_stale (clean i).2
        intro online
        exact (frees i online).2
  | streamSource id source =>
      cases rest
      exact clean
  | flvTag id tag =>
      cases rest
      exact clean

theorem WatchedMixer.step_clean {codecs : Codecs V A} {backend : Backend β}
    {w w' : WatchedMixer V A β} {call : SlotCall} (clean : w.Clean)
    (apart : KeepsApart codecs w call)
    (stepped : w.step codecs backend call = .ok w') : w'.Clean := by
  cases call with
  | newInput inputBuf =>
      obtain ⟨m, _, rest⟩ := bind_ok.mp stepped
      obtain ⟨counts, counted, last⟩ := bind_ok.mp rest
      obtain ⟨⟨readers, calls⟩, called, ran⟩ := bind_ok.mp counted
      cases last
      have frees : IfOk (fun read => EveryStep (Streams.watchedAct codecs)
          FreesSlots w.streams read.2)
          (w.watched.flvSegParser.readers.calls inputBuf.data) := apart
      rw [called] at frees
      have atEnd : counts.Clean :=
        run_invariant_of_everyStep Watched.Clean
          (fun _ _ _ clean frees acted =>
            Streams.watchedAct_clean clean frees acted)
          clean frees ran
      exact atEnd
  | getOutput =>
      obtain ⟨⟨m, out⟩, _, rest⟩ := bind_ok.mp stepped
      cases rest
      intro i
      exact ⟨Remains.cache_stale (clean i).1, Remains.cache_stale (clean i).2⟩
  | getNextAudioFrame i =>
      cases stepped
      intro j
      by_cases same : j = i
      · subst same
        simpa [Remains.take, (clean j).1] using (clean j).2
      · simpa [same] using clean j
  | getNextVideoFrame i timestamp =>
      cases stepped
      intro j
      by_cases same : j = i
      · subst same
        simpa [Remains.take, (clean j).2] using (clean j).1
      · simpa [same] using clean j

theorem Remains.cache_fresh {r : Remains} {entries : Nat}
    (clean : r.stale = 0) (some : entries ≠ 0) :
    (r.cache entries).cachedStale = false := by
  rw [cache, if_neg some, clean]
  simpa using some

/-- Where nothing stale is queued and nothing stale is shown, a call hands
out and marks valid what belongs to the present publisher. -/
theorem returnsFresh_of_clean {codecs : Codecs V A} {backend : Backend β}
    {w : WatchedMixer V A β} {call : SlotCall} (clean : w.Clean)
    (apart : KeepsApart codecs w call) : ReturnsFresh backend w call := by
  cases call with
  | newInput inputBuf => trivial
  | getNextAudioFrame i =>
      intro a m _
      exact (clean i).1
  | getNextVideoFrame i timestamp =>
      intro v m _
      exact (clean i).2
  | getOutput =>
      intro m out taken i
      refine ⟨fun _ => (clean i).1, fun _ => (clean i).2, ?_, ?_⟩
      · intro audioPts isAudio valid
        obtain ⟨streams, _, took⟩ := MixCoder.getOutput_audio taken isAudio
        obtain ⟨a, popped⟩ := (took.instant.validPopped i).mp valid
        apply Remains.cache_fresh (clean i).1
        simp [popped]
      · intro videoPts isVideo valid
        obtain ⟨streams, decided, output⟩ :=
          MixCoder.getOutput_video.mp ⟨taken, isVideo⟩
        have turn := (MixCoder.videoOutput_taken output).shown i
        rw [MixCoder.setStreams_streams, Streams.nextInstant_stream decided,
          MixCoder.setStreams_rawVideoData] at turn
        by_cases popped : out.poppedVideo i = []
        · have hides : IfOk (fun decided => HidesCached w decided.1)
              w.watched.streams.nextInstant := apart
          rw [decided] at hides
          obtain ⟨started, decoded, cached⟩ := turn.valid_iff.mp valid
          have noneDue : ((w.watched.streams.stream i).due
              videoPts).isEmpty = true := by
            rw [← turn.taken.trans (if_pos started), popped]
            rfl
          rw [popped] at cached ⊢
          cases isStale : (w.video i).cachedStale with
          | false => exact isStale
          | true =>
              have hidden := hides i started (by simpa using cached) isStale
                noneDue
              rw [hidden] at decoded
              cases decoded
        · apply Remains.cache_fresh (clean i).2
          simpa using popped

def desktopInput : SmartBuffer where
  data := desktopSegment.bytes
  dataLength_lt := by decide

/-- The frame of the first publisher is still queued. -/
def undrained : List SlotCall :=
  [.newInput (audioSample 0), .newInput desktopInput,
    .newInput (audioSample 26)]

end GroupVoip
