import GroupVoip.SegmentFormat
import GroupVoip.TagEffects

/-!
# The order of the queues

A queue is in time order when no entry is earlier than the one before it.
What a tag appends to its queue depends on the clock of its slot, on the
global audio timestamp and on the sample count of the mapper.  Each of them
can move time backwards; the conditions below say when.
-/

namespace GroupVoip

open Library.Runs

variable {V A : Type}

/-! ## Time order -/

def InTimeOrder (times : List UInt32) : Prop :=
  times.Pairwise (· ≤ ·)

/-- `t` is not earlier than the last entry, if there is one. -/
def NotBefore (last : Option UInt32) (t : UInt32) : Prop :=
  ∀ l, last = some l → l ≤ t

theorem le_getLast {times : List UInt32} {last t : UInt32}
    (order : InTimeOrder times) (isLast : times.getLast? = some last)
    (member : t ∈ times) : t ≤ last := by
  obtain ⟨front, rfl⟩ := List.getLast?_eq_some_iff.mp isLast
  rcases List.mem_append.mp member with before | same
  · exact (List.pairwise_append.mp order).2.2 t before last (by simp)
  · rw [List.mem_singleton.mp same]
    exact UInt32.le_refl _

/-- Only the last entry matters for what is appended. -/
theorem inTimeOrder_append_singleton {times : List UInt32} {t : UInt32} :
    InTimeOrder (times ++ [t]) ↔
      InTimeOrder times ∧ NotBefore times.getLast? t := by
  rw [InTimeOrder, List.pairwise_append]
  constructor
  · intro order
    refine ⟨order.1, ?_⟩
    intro last isLast
    exact order.2.2 last (List.mem_of_getLast? isLast) t (by simp)
  · intro order
    refine ⟨order.1, List.pairwise_singleton _ _, ?_⟩
    intro earlier member later single
    rw [List.mem_singleton.mp single]
    cases isLast : times.getLast? with
    | none =>
        rw [List.getLast?_eq_none_iff.mp isLast] at member
        cases member
    | some last =>
        exact UInt32.le_trans (le_getLast order.1 isLast member)
          (order.2 last isLast)

/-! ## The mapper -/

namespace AudioTimestampMapper

theorem elapsed_succ_le (cnt : Nat) : elapsed (cnt + 1) ≤ elapsed cnt + 27 := by
  unfold elapsed
  omega

/-- Adding 100 ms overflows, so that the mapper restarts at every frame. -/
def overflows (t : UInt32) : Prop :=
  t + 100 < t

instance (t : UInt32) : Decidable (overflows t) :=
  inferInstanceAs (Decidable (t + 100 < t))

/-- `frames` frames of a message with time `t` can follow an entry at `last`:
a restart does not go back, and the sample count does not overflow. -/
def InOrder (m : AudioTimestampMapper) (t : UInt32) (frames : Nat)
    (last : Option UInt32) : Prop :=
  0 < frames →
    if m.restarts t then
      NotBefore last t ∧
        (overflows t ∨ t.toNat + elapsed (frames - 1) < 2 ^ 32)
    else if overflows t then
      m.startingTimestamp.toNat + elapsed m.cnt < 2 ^ 32 ∧
        (1 < frames →
          m.startingTimestamp.toNat + elapsed m.cnt ≤ t.toNat)
    else m.startingTimestamp.toNat + elapsed (m.cnt + (frames - 1)) < 2 ^ 32

/-- The last stamp is the one before the mapper's count; a mapper that has
stamped nothing has not started. -/
def Stamped (m : AudioTimestampMapper) : Option UInt32 → Prop
  | none => m.startingTimestamp = MAX_U32
  | some last => ∃ cnt, m.cnt = cnt + 1 ∧
      last.toNat = m.startingTimestamp.toNat + elapsed cnt

variable {m : AudioTimestampMapper} {t : UInt32} {last : Option UInt32}

theorem getNextTimestamp_restart (restart : m.restarts t = true) :
    m.getNextTimestamp t =
      (t, { startingTimestamp := t, cnt := 1, curTimestamp := t }) := by
  have stamp := getNextTimestamp_fst m t
  have settled : m.settle t =
      { startingTimestamp := t, cnt := 0, curTimestamp := t } := by
    rw [settle, if_pos restart]
  rw [settled] at stamp
  have start : (m.getNextTimestamp t).1 = t := by
    rw [stamp]
    simp [elapsed]
  rw [← Prod.mk.eta (p := m.getNextTimestamp t), start, getNextTimestamp,
    settled]

theorem getNextTimestamp_continue (restart : m.restarts t = false) :
    m.getNextTimestamp t =
      (UInt32.ofNat (m.startingTimestamp.toNat + elapsed m.cnt),
        { startingTimestamp := m.startingTimestamp, cnt := m.cnt + 1
          curTimestamp := t }) := by
  have stamp := getNextTimestamp_fst m t
  have settled : m.settle t = { m with curTimestamp := t } := by
    rw [settle, if_neg (by simp [restart])]
  rw [settled] at stamp
  rw [← Prod.mk.eta (p := m.getNextTimestamp t), stamp, getNextTimestamp,
    settled]

/-- A mapper that goes on goes back only when its count overflows. -/
theorem notBefore_continue (stamped : m.Stamped last)
    (restart : m.restarts t = false) :
    NotBefore last
        (UInt32.ofNat (m.startingTimestamp.toNat + elapsed m.cnt)) ↔
      m.startingTimestamp.toNat + elapsed m.cnt < 2 ^ 32 := by
  cases last with
  | none =>
      have fresh : m.startingTimestamp = MAX_U32 := stamped
      simp [restarts, fresh] at restart
  | some last =>
      obtain ⟨cnt, counted, time⟩ := stamped
      have small := elapsed_succ_le cnt
      have grows := elapsed_mono (Nat.le_succ cnt)
      have bound := last.toNat_lt
      rw [counted]
      constructor
      · intro notBefore
        have le := UInt32.le_iff_toNat_le.mp (notBefore last rfl)
        rw [UInt32.toNat_ofNat'] at le
        simp only [Nat.succ_eq_add_one] at grows
        omega
      · intro fits l isLast
        cases isLast
        rw [UInt32.le_iff_toNat_le, UInt32.toNat_ofNat', Nat.mod_eq_of_lt fits]
        simp only [Nat.succ_eq_add_one] at grows
        omega

/-- A mapper that has just stamped a frame restarts at the same time only if
the 100 ms overflow. -/
theorem restarts_again (cnt : Nat) {start : UInt32}
    (started : start ≠ MAX_U32 ∨ start = t) :
    ({ startingTimestamp := start, cnt := cnt, curTimestamp := t } :
        AudioTimestampMapper).restarts t = true ↔ overflows t := by
  have same : ({ startingTimestamp := start, cnt := cnt, curTimestamp := t } :
      AudioTimestampMapper).restarts t = true ↔
        start = MAX_U32 ∨ overflows t := by
    simp [restarts, overflows]
  rw [same]
  constructor
  · intro again
    rcases again with unset | beyond
    · rcases started with set | isTime
      · exact absurd unset set
      · have atEnd : overflows MAX_U32 := by decide
        rw [← isTime, unset]
        exact atEnd
    · exact beyond
  · intro beyond
    exact Or.inr beyond

theorem InOrder.head {frames : Nat} (stamped : m.Stamped last)
    (order : m.InOrder t (frames + 1) last) :
    NotBefore last (m.getNextTimestamp t).1 := by
  have order := order (by omega)
  cases restart : m.restarts t with
  | true =>
      rw [if_pos restart] at order
      rw [getNextTimestamp_restart restart]
      exact order.1
  | false =>
      rw [if_neg (by simp [restart])] at order
      rw [getNextTimestamp_continue restart, notBefore_continue stamped restart]
      split at order
      · exact order.1
      · have grows := elapsed_mono (Nat.le_add_right m.cnt (frames + 1 - 1))
        omega

theorem inOrder_tail {frames : Nat} (stamped : m.Stamped last)
    (first : NotBefore last (m.getNextTimestamp t).1) :
    m.InOrder t (frames + 1) last ↔
      (m.getNextTimestamp t).2.InOrder t frames
        (some (m.getNextTimestamp t).1) := by
  cases restart : m.restarts t with
  | true =>
      rw [getNextTimestamp_restart restart] at first ⊢
      have again : ({ startingTimestamp := t, cnt := 1, curTimestamp := t } :
          AudioTimestampMapper).restarts t = true ↔ overflows t :=
        restarts_again 1 (Or.inr rfl)
      simp only [InOrder, if_pos restart, again]
      by_cases beyond : overflows t
      · have first : NotBefore last t := first
        simp only [beyond, first, true_or, and_true, if_true]
        simp [NotBefore]
      · rcases frames with _ | frames
        · have bound := t.toNat_lt
          simp [first, elapsed, bound]
        · simp [beyond, first, Nat.add_comm 1 frames]
  | false =>
      rw [getNextTimestamp_continue restart] at first ⊢
      rw [notBefore_continue stamped restart] at first
      have small : m.startingTimestamp.toNat + elapsed m.cnt < 4294967296 :=
        first
      have set : m.startingTimestamp ≠ MAX_U32 := by
        intro unset
        simp [restarts, unset] at restart
      have again := restarts_again (m.cnt + 1) (t := t) (Or.inl set)
      simp only [InOrder, restart, again]
      by_cases beyond : overflows t
      · rcases frames with _ | frames
        · simp [beyond, small]
        · simp [beyond, small, NotBefore, UInt32.le_iff_toNat_le,
            Nat.mod_eq_of_lt small]
      · rcases frames with _ | frames
        · simp [beyond, small]
        · simp [beyond, Nat.add_comm 1 frames, Nat.add_assoc]

theorem Stamped.next (stamped : m.Stamped last)
    (first : NotBefore last (m.getNextTimestamp t).1) :
    (m.getNextTimestamp t).2.Stamped (some (m.getNextTimestamp t).1) := by
  cases restart : m.restarts t with
  | true =>
      rw [getNextTimestamp_restart restart]
      exact ⟨0, rfl, by simp [elapsed]⟩
  | false =>
      rw [getNextTimestamp_continue restart] at first ⊢
      rw [notBefore_continue stamped restart] at first
      refine ⟨m.cnt, rfl, ?_⟩
      rw [UInt32.toNat_ofNat', Nat.mod_eq_of_lt first]

end AudioTimestampMapper

/-- The stamps of a message follow what is queued in time order exactly when
the mapper's condition holds. -/
theorem stampFrames_inTimeOrder (t : UInt32) (frames : List (Bytes × Bool)) :
    ∀ {m : AudioTimestampMapper} {times : List UInt32},
      InTimeOrder times → m.Stamped times.getLast? →
      (InTimeOrder (times ++
          (stampFrames t m frames).1.map AudioRawData.pts) ↔
        m.InOrder t frames.length times.getLast?) ∧
      (m.InOrder t frames.length times.getLast? →
        (stampFrames t m frames).2.Stamped
          (times ++ (stampFrames t m frames).1.map AudioRawData.pts).getLast?) := by
  induction frames with
  | nil =>
      intro m times order stamped
      simp [stampFrames, order, stamped, AudioTimestampMapper.InOrder]
  | cons frame rest inductionHypothesis =>
      intro m times order stamped
      have split : times ++
            (stampFrames t m (frame :: rest)).1.map AudioRawData.pts =
          (times ++ [(m.getNextTimestamp t).1]) ++
            (stampFrames t (m.getNextTimestamp t).2 rest).1.map
              AudioRawData.pts := by
        simp [stampFrames]
      have final : (stampFrames t m (frame :: rest)).2 =
          (stampFrames t (m.getNextTimestamp t).2 rest).2 := rfl
      rw [split, final, List.length_cons]
      by_cases first : NotBefore times.getLast? (m.getNextTimestamp t).1
      · have next := stamped.next first
        rw [← List.getLast?_concat (l := times)] at next
        have others := inductionHypothesis
          (inTimeOrder_append_singleton.mpr ⟨order, first⟩) next
        rw [List.getLast?_concat] at others
        rw [AudioTimestampMapper.inOrder_tail stamped first]
        exact others
      · have notOrdered : ¬ InTimeOrder ((times ++ [(m.getNextTimestamp t).1]) ++
            (stampFrames t (m.getNextTimestamp t).2 rest).1.map
              AudioRawData.pts) := by
          intro ordered
          have front := (List.pairwise_append.mp ordered).1
          exact first (inTimeOrder_append_singleton.mp front).2
        have notIn : ¬ m.InOrder t (rest.length + 1) times.getLast? :=
          fun ordered => first (ordered.head stamped)
        exact ⟨iff_of_false notOrdered notIn, fun ordered => absurd ordered notIn⟩

/-! ## The clock -/

namespace FLVClock

/-- The offset that a message is timed with.  A message that sets the offset
lands on the global audio timestamp. -/
def offsetInForce (clock : FLVClock) (globalAudioTimestamp : UInt32)
    (st : StreamType) (sp : SpecialProperty) (timestamp : UInt32) : Int32 :=
  let relTimeStampOffset :=
    if clock.rebases st sp timestamp then
      (globalAudioTimestamp - timestamp).toInt32
    else clock.relTimeStampOffset
  if relTimeStampOffset = MAX_S32 then 0 else relTimeStampOffset

def negative (clock : FLVClock) (globalAudioTimestamp : UInt32)
    (st : StreamType) (sp : SpecialProperty) (timestamp : UInt32) : Prop :=
  clock.offsetInForce globalAudioTimestamp st sp timestamp < 0 ∧
    (timestamp + (clock.offsetInForce globalAudioTimestamp st sp
      timestamp).toUInt32).toInt32 < 0

instance (clock : FLVClock) (globalAudioTimestamp : UInt32) (st : StreamType)
    (sp : SpecialProperty) (timestamp : UInt32) :
    Decidable (clock.negative globalAudioTimestamp st sp timestamp) :=
  inferInstanceAs (Decidable (_ ∧ _))

theorem offset_rebase (clock : FLVClock) (globalAudioTimestamp : UInt32)
    (st : StreamType) (sp : SpecialProperty) (timestamp : UInt32) :
    (clock.rebase globalAudioTimestamp st sp timestamp).offset =
      clock.offsetInForce globalAudioTimestamp st sp timestamp := by
  unfold rebase offsetInForce
  split <;> rfl

theorem rebase_prev (clock : FLVClock) (globalAudioTimestamp : UInt32)
    (st : StreamType) (sp : SpecialProperty) (timestamp : UInt32) :
    (clock.rebase globalAudioTimestamp st sp timestamp).prevVideoAdjPts =
        clock.prevVideoAdjPts ∧
      (clock.rebase globalAudioTimestamp st sp timestamp).prevAudioAdjPts =
        clock.prevAudioAdjPts := by
  unfold rebase
  split <;> exact ⟨rfl, rfl⟩

theorem adjust_snd (clock : FLVClock) (globalAudioTimestamp : UInt32)
    (st : StreamType) (sp : SpecialProperty) (timestamp : UInt32) :
    (clock.adjust globalAudioTimestamp st sp timestamp).2 =
      if sp = .kSpsPps then clock.prevVideoAdjPts + 1
      else if clock.negative globalAudioTimestamp st sp timestamp then
        if st = .kVideoStreamType then clock.prevVideoAdjPts + 1
        else clock.prevAudioAdjPts + 1
      else timestamp + (clock.offsetInForce globalAudioTimestamp st sp
        timestamp).toUInt32 := by
  obtain ⟨video, audio⟩ :=
    clock.rebase_prev globalAudioTimestamp st sp timestamp
  have flip : clock.negative globalAudioTimestamp st sp timestamp ↔
      ¬ (decide (clock.offsetInForce globalAudioTimestamp st sp timestamp ≥ 0) ||
        decide ((timestamp + (clock.offsetInForce globalAudioTimestamp st sp
          timestamp).toUInt32).toInt32 ≥ 0)) = true := by
    simp [negative, Int32.not_le]
  simp only [adjust, pts, offset_rebase, video, audio]
  by_cases isNegative : clock.negative globalAudioTimestamp st sp timestamp
  · rw [if_pos isNegative, if_neg (flip.mp isNegative)]
  · rw [if_neg isNegative, if_pos (not_not.mp (mt flip.mpr isNegative))]

theorem adjust_curSpsPps (clock : FLVClock) (curSpsPps : Bytes)
    (globalAudioTimestamp : UInt32) (st : StreamType) (sp : SpecialProperty)
    (timestamp : UInt32) :
    (FLVClock.adjust { clock with curSpsPps := curSpsPps }
        globalAudioTimestamp st sp timestamp).2 =
      (clock.adjust globalAudioTimestamp st sp timestamp).2 := by
  rw [adjust_snd, adjust_snd]
  rfl

def audioTime (clock : FLVClock) (globalAudioTimestamp : UInt32)
    (sp : SpecialProperty) (timestamp : UInt32) : UInt32 :=
  if clock.negative globalAudioTimestamp .kAudioStreamType sp timestamp then
    clock.prevAudioAdjPts + 1
  else timestamp + (clock.offsetInForce globalAudioTimestamp .kAudioStreamType
    sp timestamp).toUInt32

end FLVClock

/-! ## One tag -/

namespace Stream

def videoTimes (s : Stream V A) : List UInt32 :=
  s.videoQueue.map VideoRawData.pts

def audioTimes (s : Stream V A) : List UInt32 :=
  s.audioQueue.map AudioRawData.pts

/-- The video message is a header or decodes. -/
def queuesVideo (codecs : Codecs V A) (s : Stream V A) (au : AccessUnit) :
    Prop :=
  au.sp = .kSpsPps ∨
    (s.videoDecoder.newAccessUnit codecs au {}).map Prod.fst = .ok true

def audioFrames (codecs : Codecs V A) (s : Stream V A) (au : AccessUnit) :
    Nat :=
  match (AudioDecoderFactory.decoderFor codecs au
      s.audioDecoder).newAccessUnit codecs au with
  | .ok (_, frames) => frames.length
  | .error _ => 0

/-- A header, or a message whose time would be negative, follows the last
video tag, and any other message has its own time on the slot's clock. -/
def VideoInOrder (s : Stream V A) (globalAudioTimestamp : UInt32)
    (sp : SpecialProperty) (timestamp : UInt32) : Prop :=
  if sp = .kSpsPps ∨
      s.clock.negative globalAudioTimestamp .kVideoStreamType sp timestamp then
    NotBefore s.videoTimes.getLast? (s.clock.prevVideoAdjPts + 1)
  else
    NotBefore s.videoTimes.getLast?
      (timestamp + (s.clock.offsetInForce globalAudioTimestamp
        .kVideoStreamType sp timestamp).toUInt32)

/-- What a tag queues, if anything, does not go back in time. -/
def TagInOrder (codecs : Codecs V A) (s : Stream V A)
    (globalAudioTimestamp : UInt32) (tag : FLVTag) : Prop :=
  ∀ timestamp body,
    readTag s.clock.curSpsPps tag = .ok (timestamp, some body) →
    body.frameReady = true →
    (tag.curStreamType = .kVideoStreamType →
      s.queuesVideo codecs body.accessUnit →
      s.VideoInOrder globalAudioTimestamp body.accessUnit.sp timestamp) ∧
    (tag.curStreamType = .kAudioStreamType →
      s.audioTsMapper.InOrder
        (s.clock.audioTime globalAudioTimestamp body.accessUnit.sp timestamp)
        (s.audioFrames codecs body.accessUnit) s.audioTimes.getLast?)

def QueuesSorted (s : Stream V A) : Prop :=
  InTimeOrder s.audioTimes ∧ InTimeOrder s.videoTimes

def Stamped (s : Stream V A) : Prop :=
  s.audioTsMapper.Stamped s.audioTimes.getLast?

/-- A message that is handed on comes from a ready body, and has the body's
time. -/
theorem delivered {s : Stream V A} {globalAudioTimestamp : UInt32}
    {tag : FLVTag} {clock : FLVClock} {au : AccessUnit}
    (parsed : parseNextFLVFrame s.clock globalAudioTimestamp tag =
      .ok (clock, some au)) :
    ∃ timestamp body,
      readTag s.clock.curSpsPps tag = .ok (timestamp, some body) ∧
      body.frameReady = true ∧
      tag.curStreamType = body.accessUnit.st ∧
      au = { body.accessUnit with pts :=
        (FLVClock.adjust s.clock globalAudioTimestamp body.accessUnit.st
          body.accessUnit.sp timestamp).2 } := by
  obtain ⟨_, nothing⟩ | ⟨timestamp, body, read, delivered⟩ :=
    parseNextFLVFrame_ok parsed
  · cases nothing
  · obtain ⟨ready, same⟩ := deliver_message delivered
    refine ⟨timestamp, body, read, ready, (readTag_ok read).1.symm, ?_⟩
    simp only [FLVClock.deliver, ready, if_true, Prod.mk.injEq,
      Option.some.injEq] at delivered
    rw [← delivered.2, FLVClock.adjust_curSpsPps]

theorem not_ready {s : Stream V A} {globalAudioTimestamp : UInt32}
    {tag : FLVTag} {clock : FLVClock} {timestamp : UInt32} {body : TagBody}
    (parsed : parseNextFLVFrame s.clock globalAudioTimestamp tag =
      .ok (clock, none))
    (read : readTag s.clock.curSpsPps tag = .ok (timestamp, some body)) :
    body.frameReady = false := by
  rcases parseNextFLVFrame_ok parsed with unread | ⟨_, _, readToo, nothing⟩
  · obtain ⟨⟨_, unread⟩, readToo, rest⟩ := bind_ok.mp parsed
    rw [read] at readToo
    cases readToo
    cases ready : body.frameReady with
    | false => rfl
    | true =>
        simp only [FLVClock.deliver, ready] at rest
        cases rest
  · rw [read] at readToo
    cases readToo
    cases ready : body.frameReady with
    | false => rfl
    | true =>
        simp only [FLVClock.deliver, ready] at nothing
        cases nothing

variable {codecs : Codecs V A} {s s' : Stream V A}
  {globalAudioTimestamp : UInt32} {tag : FLVTag} {timestamp : UInt32}
  {body : TagBody}

theorem tagInOrder_video
    (read : readTag s.clock.curSpsPps tag = .ok (timestamp, some body))
    (ready : body.frameReady = true)
    (isVideo : tag.curStreamType = .kVideoStreamType) :
    s.TagInOrder codecs globalAudioTimestamp tag ↔
      (s.queuesVideo codecs body.accessUnit →
        s.VideoInOrder globalAudioTimestamp body.accessUnit.sp timestamp) := by
  constructor
  · intro order
    exact (order timestamp body read ready).1 isVideo
  · intro order timestamp' body' readToo ready'
    rw [read] at readToo
    cases readToo
    refine ⟨fun _ => order, ?_⟩
    intro isAudio
    rw [isVideo] at isAudio
    cases isAudio

theorem tagInOrder_audio
    (read : readTag s.clock.curSpsPps tag = .ok (timestamp, some body))
    (ready : body.frameReady = true)
    (isAudio : tag.curStreamType = .kAudioStreamType) :
    s.TagInOrder codecs globalAudioTimestamp tag ↔
      s.audioTsMapper.InOrder
        (s.clock.audioTime globalAudioTimestamp body.accessUnit.sp timestamp)
        (s.audioFrames codecs body.accessUnit) s.audioTimes.getLast? := by
  constructor
  · intro order
    exact (order timestamp body read ready).2 isAudio
  · intro order timestamp' body' readToo ready'
    rw [read] at readToo
    cases readToo
    refine ⟨?_, fun _ => order⟩
    intro isVideo
    rw [isAudio] at isVideo
    cases isVideo

/-- The time of a video message goes back exactly when its condition fails. -/
theorem videoInOrder_iff (s : Stream V A) (globalAudioTimestamp : UInt32)
    (sp : SpecialProperty) (timestamp : UInt32) :
    s.VideoInOrder globalAudioTimestamp sp timestamp ↔
      NotBefore s.videoTimes.getLast?
        (s.clock.adjust globalAudioTimestamp .kVideoStreamType sp
          timestamp).2 := by
  rw [VideoInOrder, FLVClock.adjust_snd]
  by_cases header : sp = .kSpsPps
  · simp [header]
  · by_cases negative : s.clock.negative globalAudioTimestamp
        .kVideoStreamType sp timestamp
    · simp [header, negative]
    · simp [header, negative]

theorem audioTime_eq (clock : FLVClock) (globalAudioTimestamp : UInt32)
    {sp : SpecialProperty} (timestamp : UInt32) (notHeader : sp ≠ .kSpsPps) :
    clock.audioTime globalAudioTimestamp sp timestamp =
      (clock.adjust globalAudioTimestamp .kAudioStreamType sp timestamp).2 := by
  rw [FLVClock.audioTime, FLVClock.adjust_snd, if_neg notHeader]
  simp

theorem queuesVideo_iff {au : AccessUnit} {pts : UInt32} {valid : Bool}
    {decoder : VideoDecoder V} {v : VideoRawData}
    (decoded : s.videoDecoder.newAccessUnit codecs { au with pts := pts } {} =
      .ok (valid, decoder, v)) :
    s.queuesVideo codecs au ↔ au.sp = .kSpsPps ∨ valid = true := by
  rw [queuesVideo, ← VideoDecoder.newAccessUnit_fst codecs s.videoDecoder au pts,
    decoded]
  simp [Except.map]

/-- A tag that adds to the video queue keeps the order if what it adds does
not go back. -/
theorem queuesSorted_video (v : VideoRawData) (sorted : s.QueuesSorted)
    (audio : s'.audioTimes = s.audioTimes)
    (video : s'.videoTimes = s.videoTimes ++ [v.pts]) :
    s'.QueuesSorted ↔ NotBefore s.videoTimes.getLast? v.pts := by
  rw [QueuesSorted, audio, video, inTimeOrder_append_singleton]
  constructor
  · intro order
    exact order.2.2
  · intro order
    exact ⟨sorted.1, sorted.2, order⟩

/-- The message of a video tag has the time of the slot's clock, and is queued
when it is valid or a header. -/
theorem videoMessage {clock : FLVClock} {au : AccessUnit}
    {decoder : VideoDecoder V} {v : VideoRawData} {valid : Bool}
    (parsed : parseNextFLVFrame s.clock globalAudioTimestamp tag =
      .ok (clock, some au))
    (isVideo : au.st = .kVideoStreamType)
    (decoded : s.videoDecoder.newAccessUnit codecs au {} =
      .ok (valid, decoder, v)) :
    ∃ timestamp body,
      readTag s.clock.curSpsPps tag = .ok (timestamp, some body) ∧
      body.frameReady = true ∧ tag.curStreamType = .kVideoStreamType ∧
      (s.queuesVideo codecs body.accessUnit ↔
        au.sp = .kSpsPps ∨ valid = true) ∧
      au.pts = (s.clock.adjust globalAudioTimestamp .kVideoStreamType
        body.accessUnit.sp timestamp).2 := by
  obtain ⟨timestamp, body, read, ready, st, message⟩ := delivered parsed
  have bodyVideo : body.accessUnit.st = .kVideoStreamType := by
    rw [← isVideo, message]
  refine ⟨timestamp, body, read, ready, st.trans bodyVideo, ?_, ?_⟩
  · rw [message] at decoded
    rw [queuesVideo_iff decoded, message]
  · rw [message, bodyVideo]

/-- The message of an audio tag has the time of the slot's clock, and is
decoded to the frames counted. -/
theorem audioMessage {clock : FLVClock} {au : AccessUnit}
    {decoder : AudioDecoder A} {frames : List (Bytes × Bool)}
    (parsed : parseNextFLVFrame s.clock globalAudioTimestamp tag =
      .ok (clock, some au))
    (isAudio : au.st = .kAudioStreamType)
    (decoded : (AudioDecoderFactory.decoderFor codecs au
      s.audioDecoder).newAccessUnit codecs au = .ok (decoder, frames)) :
    ∃ timestamp body,
      readTag s.clock.curSpsPps tag = .ok (timestamp, some body) ∧
      body.frameReady = true ∧ tag.curStreamType = .kAudioStreamType ∧
      s.audioFrames codecs body.accessUnit = frames.length ∧
      au.pts = s.clock.audioTime globalAudioTimestamp body.accessUnit.sp
        timestamp := by
  obtain ⟨timestamp, body, read, ready, st, message⟩ := delivered parsed
  have bodyAudio : body.accessUnit.st = .kAudioStreamType := by
    rw [← isAudio, message]
  have notHeader : body.accessUnit.sp ≠ .kSpsPps := by
    intro header
    have isVideo := (readTag_ok read).2.2 header
    rw [st, bodyAudio] at isVideo
    cases isVideo
  refine ⟨timestamp, body, read, ready, st.trans bodyAudio, ?_, ?_⟩
  · rw [message] at decoded
    have same : (AudioDecoderFactory.decoderFor codecs body.accessUnit
        s.audioDecoder).newAccessUnit codecs body.accessUnit =
          .ok (decoder, frames) := decoded
    rw [audioFrames, same]
  · rw [audioTime_eq _ _ _ notHeader, message, bodyAudio]

/-- What one tag does to the order of the slot's queues. -/
theorem onTag_sorted {globalAudioTimestamp' : UInt32}
    (sorted : s.QueuesSorted) (stamped : s.Stamped)
    (done : s.onTag codecs globalAudioTimestamp tag =
      .ok (s', globalAudioTimestamp')) :
    (s'.QueuesSorted ↔ s.TagInOrder codecs globalAudioTimestamp tag) ∧
      (s.TagInOrder codecs globalAudioTimestamp tag → s'.Stamped) := by
  cases Stream.onTag_ok done with
  | silent clock parsed =>
      have order : s.TagInOrder codecs globalAudioTimestamp tag := by
        intro timestamp body read ready
        rw [not_ready parsed read] at ready
        cases ready
      exact ⟨iff_of_true sorted order, fun _ => stamped⟩
  | undecoded clock au decoder v parsed isVideo decoded sp notHeader sameMark =>
      obtain ⟨timestamp, body, read, ready, videoTag, queued, _⟩ :=
        videoMessage parsed isVideo decoded
      have notQueued : ¬ s.queuesVideo codecs body.accessUnit := by
        rw [queued]
        intro headerOrValid
        rcases headerOrValid with header | valid
        · exact notHeader (sp.trans header)
        · cases valid
      have order : s.TagInOrder codecs globalAudioTimestamp tag :=
        (tagInOrder_video read ready videoTag).mpr
          fun queued => absurd queued notQueued
      exact ⟨iff_of_true sorted order, fun _ => stamped⟩
  | video clock au decoder v valid parsed isVideo decoded validOrHeader sp pts
      planes marked =>
      obtain ⟨timestamp, body, read, ready, videoTag, queued, time⟩ :=
        videoMessage parsed isVideo decoded
      have queuesVideo : s.queuesVideo codecs body.accessUnit := by
        rw [queued]
        rcases validOrHeader with isValid | header
        · exact Or.inr isValid
        · exact Or.inl (sp.symm.trans header)
      refine ⟨?_, fun _ => stamped⟩
      rw [tagInOrder_video read ready videoTag, videoInOrder_iff, ← time, ← pts]
      refine (queuesSorted_video v sorted ?_ ?_).trans ?_
      · rfl
      · simp [videoTimes]
      · exact ⟨fun order _ => order, fun order => order queuesVideo⟩
  | audio clock au decoder frames parsed isAudio decoded =>
      obtain ⟨timestamp, body, read, ready, audioTag, counted, time⟩ :=
        audioMessage parsed isAudio decoded
      rw [tagInOrder_audio read ready audioTag, counted, ← time]
      obtain ⟨ordered, stampedAfter⟩ :=
        stampFrames_inTimeOrder au.pts frames sorted.1 stamped
      constructor
      · have video : InTimeOrder s.videoTimes := sorted.2
        simp only [QueuesSorted, audioTimes, videoTimes,
          List.map_append] at ordered video ⊢
        rw [← ordered]
        simp [video]
      · intro order
        simpa [Stamped, audioTimes] using stampedAfter order

theorem onTag_appends {globalAudioTimestamp' : UInt32}
    (done : s.onTag codecs globalAudioTimestamp tag =
      .ok (s', globalAudioTimestamp')) :
    (∃ more, s'.audioQueue = s.audioQueue ++ more) ∧
      ∃ more, s'.videoQueue = s.videoQueue ++ more := by
  cases Stream.onTag_ok done with
  | silent => exact ⟨⟨[], by simp⟩, ⟨[], by simp⟩⟩
  | undecoded => exact ⟨⟨[], by simp⟩, ⟨[], by simp⟩⟩
  | video => exact ⟨⟨[], by simp⟩, ⟨_, rfl⟩⟩
  | audio => exact ⟨⟨_, rfl⟩, ⟨[], by simp⟩⟩

end Stream

/-! ## Runs of readData -/

namespace Streams

def QueuesSorted (p : Streams V A) : Prop :=
  ∀ i, (p.stream i).QueuesSorted

def Stamped (p : Streams V A) : Prop :=
  ∀ i, (p.stream i).Stamped

/-- An effect of the readers queues nothing that goes back in time. -/
def TagInOrder (codecs : Codecs V A) (p : Streams V A) : StreamCall → Prop
  | .flvTag id tag =>
      (p.stream id).TagInOrder codecs p.globalAudioTimestamp tag
  | _ => True

variable {codecs : Codecs V A} {p p' : Streams V A}

theorem onTag_slots {id : Slot} {tag : FLVTag}
    (done : p.onTag codecs id tag = .ok p') :
    ∃ s globalAudioTimestamp,
      (p.stream id).onTag codecs p.globalAudioTimestamp tag =
        .ok (s, globalAudioTimestamp) ∧
      p'.stream = Function.update p.stream id s := by
  obtain ⟨⟨s, globalAudioTimestamp⟩, tagged, rest⟩ := bind_ok.mp done
  cases rest
  exact ⟨s, globalAudioTimestamp, tagged, rfl⟩

theorem forall_update {P : Stream V A → Prop} {stream : Slot → Stream V A}
    {id : Slot} {s : Stream V A} (others : ∀ i, i ≠ id → P (stream i)) :
    (∀ i, P (Function.update stream id s i)) ↔ P s := by
  rw [Function.forall_update_iff stream fun _ => P]
  exact and_iff_left others

theorem act_sorted {call : StreamCall} (stamped : p.Stamped)
    (sorted : p.QueuesSorted) (acted : p.act codecs call = .ok p') :
    (p'.QueuesSorted ↔ p.TagInOrder codecs call) ∧
      (p.TagInOrder codecs call → p'.Stamped) := by
  cases call with
  | streamMask streamMask =>
      cases acted
      exact ⟨iff_of_true sorted trivial, fun _ => stamped⟩
  | streamSource id source =>
      cases acted
      have keeps {P : Stream V A → Prop} (all : ∀ i, P (p.stream i))
          (same : P (p.stream id) →
            P { p.stream id with streamSource := source }) :
          ∀ i, P ((p.setSource id source).stream i) :=
        (forall_update fun i _ => all i).mpr (same (all id))
      exact ⟨iff_of_true (keeps sorted fun slot => slot) trivial,
        fun _ => keeps stamped fun slot => slot⟩
  | flvTag id tag =>
      obtain ⟨s, globalAudioTimestamp, done, updated⟩ := onTag_slots acted
      obtain ⟨order, stampedAfter⟩ :=
        Stream.onTag_sorted (sorted id) (stamped id) done
      rw [QueuesSorted, Stamped, updated,
        forall_update fun i _ => sorted i, forall_update fun i _ => stamped i]
      exact ⟨order, stampedAfter⟩

/-- A queue that is out of order stays out of order. -/
theorem act_unsorted {call : StreamCall} (acted : p.act codecs call = .ok p')
    (sorted : p'.QueuesSorted) : p.QueuesSorted := by
  cases call with
  | streamMask streamMask =>
      cases acted
      exact sorted
  | streamSource id source =>
      cases acted
      intro i
      by_cases same : i = id
      · have slot : Stream.QueuesSorted
            { p.stream i with streamSource := source } := by
          simpa [setSource, same] using sorted i
        exact slot
      · simpa [setSource, same] using sorted i
  | flvTag id tag =>
      obtain ⟨s, globalAudioTimestamp, done, updated⟩ := onTag_slots acted
      intro i
      have slot := sorted i
      rw [updated] at slot
      by_cases same : i = id
      · rw [same, Function.update_self] at slot
        rw [same]
        obtain ⟨⟨audio, audioQueue⟩, ⟨video, videoQueue⟩⟩ :=
          Stream.onTag_appends done
        simp only [Stream.QueuesSorted, Stream.audioTimes, Stream.videoTimes,
          audioQueue, videoQueue, List.map_append] at slot ⊢
        exact ⟨(List.pairwise_append.mp slot.1).1,
          (List.pairwise_append.mp slot.2).1⟩
      · rw [Function.update_of_ne same] at slot
        exact slot

end Streams

/-- Every tag in these buffers finds its slot in a state in which it queues
nothing that goes back in time. -/
def InputsInOrder (codecs : Codecs V A)
    (streamSource : Slot → StreamSource) (inputs : List SmartBuffer) : Prop :=
  ∀ readers calls,
    Readers.start.calls (SmartBuffer.stream inputs) = .ok (readers, calls) →
    EveryStep (Streams.act codecs) (Streams.TagInOrder codecs)
      (Streams.start streamSource) calls

/-- After a run of `readData` all queues are in time order if and only if
every tag was. -/
theorem queues_sorted_iff (codecs : Codecs V A)
    (streamSource : Slot → StreamSource) (inputs : List SmartBuffer)
    (p : FLVSegmentParser V A)
    (reached : (FLVSegmentParser.start streamSource).readAll
      (Streams.act codecs) inputs = .ok p) :
    p.streams.QueuesSorted ↔ InputsInOrder codecs streamSource inputs := by
  rw [InputSide.readAll_eq_readBytes] at reached
  obtain ⟨calls, called, ran⟩ := readBytes_ok.mp reached
  have sorted : (Streams.start streamSource : Streams V A).QueuesSorted :=
    fun _ => ⟨List.Pairwise.nil, List.Pairwise.nil⟩
  have stamped : (Streams.start streamSource : Streams V A).Stamped :=
    fun _ => rfl
  have order := run_iff_everyStep Streams.Stamped
    (fun p call p' stamped sorted acted =>
      (Streams.act_sorted stamped sorted acted).1)
    (fun p call p' stamped sorted order acted =>
      (Streams.act_sorted stamped sorted acted).2 order)
    (fun p call p' acted sorted => Streams.act_unsorted acted sorted)
    stamped sorted ran
  rw [order]
  constructor
  · intro every readers calls' called'
    rw [show Readers.start = (FLVSegmentParser.start streamSource :
      FLVSegmentParser V A).readers from rfl] at called'
    cases called.symm.trans called'
    exact every
  · intro every
    exact every _ calls called

/-! ## Sources in order -/

def StreamCall.timestamp (i : Slot) (st : StreamType) :
    StreamCall → Option UInt32
  | .flvTag id tag =>
      if id = i ∧ tag.curStreamType = st then
        match readTimestamp ⟨tag.strFlvTag, 0⟩ with
        | .ok (timestamp, _) => some timestamp
        | .error _ => none
      else none
  | _ => none

/-- Within each slot the timestamps of the audio tags do not go back, and
neither do those of the video tags. -/
def SourcesInOrder (calls : List StreamCall) : Prop :=
  ∀ i, InTimeOrder (calls.filterMap (StreamCall.timestamp i .kAudioStreamType)) ∧
    InTimeOrder (calls.filterMap (StreamCall.timestamp i .kVideoStreamType))

instance (times : List UInt32) : Decidable (InTimeOrder times) :=
  inferInstanceAs (Decidable (times.Pairwise (· ≤ ·)))

instance (calls : List StreamCall) : Decidable (SourcesInOrder calls) :=
  inferInstanceAs (Decidable (∀ _i : Fin MAX_XCODING_INSTANCES, _ ∧ _))

instance (s : Stream V A) : Decidable s.QueuesSorted :=
  inferInstanceAs (Decidable (InTimeOrder _ ∧ InTimeOrder _))

instance (p : Streams V A) : Decidable p.QueuesSorted :=
  inferInstanceAs (Decidable (∀ _i : Fin MAX_XCODING_INSTANCES, _))

theorem queues_sorted_twoAudioMessages :
    ∃ p : FLVSegmentParser Unit Unit,
      (FLVSegmentParser.start fun _ => .kDesktopStreamSource).readAll
          (Streams.act Codecs.echo) [audioSample 0, audioSample 26] = .ok p ∧
        InputsInOrder Codecs.echo (fun _ => .kDesktopStreamSource)
          [audioSample 0, audioSample 26] := by
  have seen :
      ((FLVSegmentParser.start fun _ => .kDesktopStreamSource :
          FLVSegmentParser Unit Unit).readAll (Streams.act Codecs.echo)
        [audioSample 0, audioSample 26]).map
          (fun p => decide p.streams.QueuesSorted) = .ok true := by
    decide +kernel
  obtain ⟨p, reached, sorted⟩ := map_ok.mp seen
  exact ⟨p, reached, (queues_sorted_iff Codecs.echo
    (fun _ => .kDesktopStreamSource) _ p reached).mp (of_decide_eq_true sorted)⟩

/-- A header is queued at 1 ms and the picture behind it at 0 ms. -/
theorem queues_unsorted_headerThenPicture :
    ∃ inputs : List SmartBuffer,
      (∃ segments : List Segment,
        SmartBuffer.stream inputs = segments.flatMap Segment.bytes) ∧
      (∃ readers calls,
        Readers.start.calls (SmartBuffer.stream inputs) =
          .ok (readers, calls) ∧ SourcesInOrder calls) ∧
      ∃ p : FLVSegmentParser Unit Unit,
        (FLVSegmentParser.start fun _ => .kDesktopStreamSource).readAll
            (Streams.act Codecs.echo) inputs = .ok p ∧
          ¬ p.streams.QueuesSorted := by
  refine ⟨[audioSample 0, headerSample 0 1, pictureSample 0 5],
    ⟨[soleSegment (flvTagBytes 8 0 [0x2f, 7]) (by decide),
      soleSegment (flvTagBytes 9 0 [0x17, 0, 0, 0, 0, 1, 100, 0, 30, 255, 225,
        0, 1, 1, 1, 0, 1, 104]) (by decide),
      soleSegment (flvTagBytes 9 0 [0x27, 1, 0, 0, 0, 0, 0, 0, 1, 5])
        (by decide)], rfl⟩, ?_, ?_⟩
  · have seen :
        (Readers.start.calls (SmartBuffer.stream
          [audioSample 0, headerSample 0 1, pictureSample 0 5])).map
            (fun read => decide (SourcesInOrder read.2)) = .ok true := by
      decide +kernel
    obtain ⟨⟨readers, calls⟩, called, inOrder⟩ := map_ok.mp seen
    exact ⟨readers, calls, called, of_decide_eq_true inOrder⟩
  · have seen :
        ((FLVSegmentParser.start fun _ => .kDesktopStreamSource :
            FLVSegmentParser Unit Unit).readAll (Streams.act Codecs.echo)
          [audioSample 0, headerSample 0 1, pictureSample 0 5]).map
            (fun p => decide p.streams.QueuesSorted) = .ok false := by
      decide +kernel
    obtain ⟨p, reached, unsorted⟩ := map_ok.mp seen
    exact ⟨p, reached, of_decide_eq_false unsorted⟩

end GroupVoip
