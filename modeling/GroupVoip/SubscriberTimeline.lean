import GroupVoip.PlayEngine

/-!
# The timeline of a subscriber

A subscriber that joins a live stream sees it from time zero on: its messages
are shifted by the first positive timestamp that it is sent.
-/

namespace GroupVoip

open Library.Runs

/-- The first positive timestamp, or 0. -/
def firstPositive : List StreamMessage → Int
  | [] => 0
  | message :: rest =>
      if 0 < message.timestamp then message.timestamp else firstPositive rest

/-- The message on a timeline that starts at `base`. -/
def StreamMessage.since (message : StreamMessage) (base : Int) :
    StreamMessage :=
  { message with timestamp := max 0 (message.timestamp - base) }

section Timestamps

variable {messages : List StreamMessage} {message : StreamMessage}

theorem firstPositive_nonneg (messages : List StreamMessage) :
    0 ≤ firstPositive messages := by
  induction messages with
  | nil => exact le_refl 0
  | cons message rest inductionHypothesis =>
      rw [firstPositive]
      split
      · exact le_of_lt ‹_›
      · exact inductionHypothesis

theorem firstPositive_snoc_of_pos (positive : 0 < firstPositive messages) :
    firstPositive (messages ++ [message]) = firstPositive messages := by
  induction messages with
  | nil => exact absurd positive (lt_irrefl 0)
  | cons head rest inductionHypothesis =>
      rw [firstPositive] at positive
      rw [List.cons_append, firstPositive, firstPositive]
      by_cases first : 0 < head.timestamp
      · rw [if_pos first, if_pos first]
      · rw [if_neg first] at positive
        rw [if_neg first, if_neg first, inductionHypothesis positive]

theorem firstPositive_snoc_of_zero (isZero : firstPositive messages = 0)
    (nonneg : 0 ≤ message.timestamp) :
    firstPositive (messages ++ [message]) = message.timestamp := by
  induction messages with
  | nil =>
      rw [List.nil_append, firstPositive]
      split
      · rfl
      · exact le_antisymm nonneg (not_lt.mp ‹_›)
  | cons head rest inductionHypothesis =>
      rw [firstPositive] at isZero
      rw [List.cons_append, firstPositive]
      by_cases first : 0 < head.timestamp
      · rw [if_pos first] at isZero
        exact absurd isZero (ne_of_gt first)
      · rw [if_neg first] at isZero
        rw [if_neg first, inductionHypothesis isZero]

/-- It is the timestamp of one of the messages. -/
theorem firstPositive_mem (positive : 0 < firstPositive messages) :
    ∃ m ∈ messages, m.timestamp = firstPositive messages := by
  induction messages with
  | nil => exact absurd positive (lt_irrefl 0)
  | cons head rest inductionHypothesis =>
      rw [firstPositive] at positive ⊢
      by_cases first : 0 < head.timestamp
      · rw [if_pos first]
        exact ⟨head, List.mem_cons_self, rfl⟩
      · rw [if_neg first] at positive ⊢
        obtain ⟨m, member, same⟩ := inductionHypothesis positive
        exact ⟨m, List.mem_cons_of_mem head member, same⟩

theorem timestamp_nonpos (isZero : firstPositive messages = 0)
    (member : message ∈ messages) : message.timestamp ≤ 0 := by
  induction messages with
  | nil => cases member
  | cons head rest inductionHypothesis =>
      rw [firstPositive] at isZero
      by_cases first : 0 < head.timestamp
      · rw [if_pos first] at isZero
        exact absurd isZero (ne_of_gt first)
      · rw [if_neg first] at isZero
        rcases List.mem_cons.mp member with isHead | inRest
        · rw [isHead]
          exact not_lt.mp first
        · exact inductionHypothesis isZero inRest

end Timestamps

namespace PlayEngine

variable {e t : PlayEngine} {a : Step} {taken sent : List StreamMessage}

/-- The messages that come in with a run. -/
def incoming (steps : List Step) : List StreamMessage :=
  steps.filterMap fun
    | .pushMessage message _ _ => some message
    | _ => none

theorem incoming_append (first second : List Step) :
    incoming (first ++ second) = incoming first ++ incoming second :=
  List.filterMap_append

/-- Unless a blank packet is due, a message is left out or sent itself. -/
theorem pushMessage_cases (noBlank : e.sendBlankAudio = false)
    (message : StreamMessage) (canDrop : Bool) (pendingVideos : Nat) :
    ∃ u, SameTimeline e u ∧
      (e.pushMessage message canDrop pendingVideos = u ∨
        e.pushMessage message canDrop pendingVideos =
          u.sendMessage message) := by
  have itself : SameTimeline e e := ⟨rfl, rfl, rfl, rfl, rfl⟩
  rw [pushMessage]
  cases message.body with
  | video type =>
      dsimp only
      by_cases paused : e.state = .paused
      · rw [if_pos paused]
        exact ⟨{ e with
          videoFrameDropper := e.videoFrameDropper.dropPacket type },
          ⟨rfl, rfl, rfl, rfl, rfl⟩, .inl rfl⟩
      · rw [if_neg paused]
        refine ⟨_, sameTimeline_videoTurn e type canDrop pendingVideos, ?_⟩
        split
        · exact .inr rfl
        · exact .inl rfl
  | audio =>
      dsimp only
      rw [noBlank]
      refine ⟨e, itself, ?_⟩
      split
      · exact .inl rfl
      · split
        · exact .inr rfl
        · exact .inl rfl
  | notify =>
      dsimp only
      refine ⟨e, itself, ?_⟩
      split
      · exact .inl rfl
      · exact .inr rfl

/-- What was pushed on of the messages taken. -/
structure Shifted (e : PlayEngine) (sent : List StreamMessage) : Prop where
  live : e.playDecision = .live
  unlimited : e.length < 0
  noBlank : e.sendBlankAudio = false
  start : e.streamStartTS =
    if firstPositive sent = 0 then -1 else firstPositive sent
  pushed : e.pushed = sent.map (·.since (firstPositive sent))

theorem Shifted.of_same (shifted : e.Shifted sent) (same : SameTimeline e t) :
    t.Shifted sent where
  live := same.playDecision.trans shifted.live
  unlimited := same.length ▸ shifted.unlimited
  noBlank := same.sendBlankAudio.trans shifted.noBlank
  start := same.streamStartTS.trans shifted.start
  pushed := same.pushed.trans shifted.pushed

theorem relative_of_started {ts : Int} (live : e.playDecision = .live)
    (started : 0 < e.streamStartTS) (notBefore : e.streamStartTS ≤ ts) :
    e.startFor ts = e.streamStartTS ∧
      e.relative ts = (ts - e.streamStartTS, ts - e.streamStartTS) := by
  have goesOn : ¬e.Restarts ts := by
    rw [Restarts]
    omega
  have start : e.startFor ts = e.streamStartTS := by
    rw [PlayEngine.startFor, if_neg goesOn]
  refine ⟨start, ?_⟩
  rw [relative, start, if_pos ⟨live, started⟩]

/-- The timeline of a live stream. -/
theorem Shifted.startFor (shifted : e.Shifted sent) {message : StreamMessage}
    (nonneg : 0 ≤ message.timestamp)
    (notBefore : ∀ m ∈ sent, m.timestamp ≤ message.timestamp) :
    e.startFor message.timestamp =
        (if firstPositive (sent ++ [message]) = 0 then -1
          else firstPositive (sent ++ [message])) ∧
      (e.relative message.timestamp).1 =
        max 0 (message.timestamp - firstPositive (sent ++ [message])) := by
  by_cases isZero : firstPositive sent = 0
  · have start := shifted.start
    rw [if_pos isZero] at start
    rw [firstPositive_snoc_of_zero isZero nonneg]
    simp only [relative, PlayEngine.startFor, Restarts, start, shifted.live]
    by_cases positive : 0 < message.timestamp
    · simp [positive, ne_of_gt positive]
    · have atZero : message.timestamp = 0 :=
        le_antisymm (not_lt.mp positive) nonneg
      simp [atZero]
  · have positive : 0 < firstPositive sent :=
      lt_of_le_of_ne (firstPositive_nonneg sent) (Ne.symm isZero)
    have start := shifted.start
    rw [if_neg isZero] at start
    obtain ⟨m, member, same⟩ := firstPositive_mem positive
    have atLeast : firstPositive sent ≤ message.timestamp :=
      same ▸ notBefore m member
    have started := relative_of_started shifted.live (start ▸ positive)
      (start ▸ atLeast)
    rw [firstPositive_snoc_of_pos positive, if_neg isZero, started.1, started.2,
      start]
    exact ⟨rfl, (max_eq_right (Int.sub_nonneg_of_le atLeast)).symm⟩

/-- A later base leaves the messages at time zero where they are. -/
theorem map_since_snoc {message : StreamMessage}
    (nonneg : 0 ≤ message.timestamp) (allNonneg : ∀ m ∈ sent, 0 ≤ m.timestamp) :
    sent.map (·.since (firstPositive (sent ++ [message]))) =
      sent.map (·.since (firstPositive sent)) := by
  by_cases isZero : firstPositive sent = 0
  · rw [firstPositive_snoc_of_zero isZero nonneg, isZero]
    apply List.map_congr_left
    intro m member
    have atZero : m.timestamp = 0 :=
      le_antisymm (timestamp_nonpos isZero member) (allNonneg m member)
    simp [StreamMessage.since, atZero, nonneg]
  · rw [firstPositive_snoc_of_pos
      (lt_of_le_of_ne (firstPositive_nonneg sent) (Ne.symm isZero))]

theorem Shifted.sendMessage (shifted : e.Shifted sent)
    {message : StreamMessage} (nonneg : 0 ≤ message.timestamp)
    (allNonneg : ∀ m ∈ sent, 0 ≤ m.timestamp)
    (notBefore : ∀ m ∈ sent, m.timestamp ≤ message.timestamp) :
    (e.sendMessage message).Shifted (sent ++ [message]) := by
  obtain ⟨start, out⟩ := shifted.startFor nonneg notBefore
  rw [sendMessage_unlimited shifted.unlimited]
  constructor
  · exact shifted.live
  · exact shifted.unlimited
  · exact shifted.noBlank
  · exact start
  · rw [List.map_append, map_since_snoc nonneg allNonneg, ← shifted.pushed,
      List.map_singleton, StreamMessage.since, ← out]
    rfl

/-- The blank packet comes with a time of the subscriber's timeline and not of
the stream's.  If the stream had been on for longer than the subscriber has
been there, the timeline starts anew and the later messages jump ahead. -/
theorem blankAudio_jump (live : e.playDecision = .live)
    (plays : e.state ≠ .paused) (audioOff : e.receiveAudio = false)
    (due : e.sendBlankAudio = true) (later : 0 < e.lastMessageTs)
    (early : e.lastMessageTs < e.streamStartTS) {message : StreamMessage}
    (isAudio : message.body = .audio) (canDrop : Bool) (pendingVideos : Nat)
    {ts : Int} (notBefore : e.streamStartTS ≤ ts) :
    ((e.pushMessage message canDrop pendingVideos).relative ts).1 =
      (e.relative ts).1 + (e.streamStartTS - e.lastMessageTs) := by
  have blank : e.pushMessage message canDrop pendingVideos =
      { e with sendBlankAudio := false }.sendMessage e.blankAudio := by
    simp only [pushMessage, isAudio, plays, audioOff, due, if_false, if_true,
      Bool.false_eq_true]
  have time : e.blankAudio.timestamp = e.lastMessageTs := by
    rw [blankAudio, if_pos later]
  have restarts : ({ e with sendBlankAudio := false } : PlayEngine).startFor
      e.lastMessageTs = e.lastMessageTs := by
    rw [PlayEngine.startFor, if_pos]
    exact .inr early
  have start : (e.pushMessage message canDrop pendingVideos).streamStartTS =
      e.lastMessageTs := by
    rw [blank, PlayEngine.sendMessage, time, restarts]
    split <;> rfl
  have stillLive : (e.pushMessage message canDrop pendingVideos).playDecision =
      .live := by
    rw [blank, PlayEngine.sendMessage]
    split <;> exact live
  rw [(relative_of_started live (lt_trans later early) notBefore).2,
    (relative_of_started stillLive (start ▸ later)
      (start ▸ le_trans (le_of_lt early) notBefore)).2, start]
  dsimp only
  omega

/-- No step switches the audio off. -/
def KeepsAudio : Step → Prop
  | .receiveAudio receive => receive = true
  | _ => True

instance : ∀ a, Decidable (KeepsAudio a)
  | .receiveAudio _ => inferInstanceAs (Decidable (_ = true))
  | .pushMessage _ _ _ | .pause | .resume | .resetDropper | .receiveVideo _ =>
      isTrue trivial

theorem Shifted.act (shifted : e.Shifted sent) (keeps : KeepsAudio a)
    (sublist : sent.Sublist taken)
    (nonneg : ∀ m ∈ taken ++ incoming [a], 0 ≤ m.timestamp)
    (ordered : (taken ++ incoming [a]).Pairwise
      fun m n => m.timestamp ≤ n.timestamp)
    (stepped : e.act a = .ok t) :
    ∃ more, more.Sublist (taken ++ incoming [a]) ∧ t.Shifted more := by
  unfold PlayEngine.act at stepped
  by_cases stopped : e.state = .stopped
  · rw [if_pos stopped] at stepped
    cases stepped
  · rw [if_neg stopped] at stepped
    cases a with
    | pushMessage message canDrop pendingVideos =>
        cases stepped
        have isNew : incoming [.pushMessage message canDrop pendingVideos] =
          [message] := rfl
        rw [isNew] at nonneg ordered ⊢
        obtain ⟨u, same, isOut | isSent⟩ :=
          pushMessage_cases shifted.noBlank message canDrop pendingVideos
        · rw [isOut]
          exact ⟨sent, sublist.trans (List.sublist_append_left taken [message]),
            shifted.of_same same⟩
        · rw [isSent]
          refine ⟨sent ++ [message],
            sublist.append (List.Sublist.refl [message]), ?_⟩
          apply (shifted.of_same same).sendMessage
          · exact nonneg message (by simp)
          · intro m member
            exact nonneg m (List.mem_append_left _ (sublist.subset member))
          · intro m member
            exact (List.pairwise_append.mp ordered).2.2 m
              (sublist.subset member) message List.mem_cons_self
    | pause | resume =>
        dsimp only at stepped
        split at stepped
        all_goals cases stepped
        exact ⟨sent, by simpa [incoming] using sublist,
          shifted.of_same ⟨rfl, rfl, rfl, rfl, rfl⟩⟩
    | resetDropper | receiveVideo receive =>
        cases stepped
        exact ⟨sent, by simpa [incoming] using sublist,
          shifted.of_same ⟨rfl, rfl, rfl, rfl, rfl⟩⟩
    | receiveAudio receive =>
        cases stepped
        rw [show receive = true from keeps]
        exact ⟨sent, by simpa [incoming] using sublist,
          shifted.of_same ⟨rfl, rfl, by simp, rfl, rfl⟩⟩

end PlayEngine

/-- A keyframe is left out, and the subscriber pauses in between. -/
def lateSubscriber : List PlayEngine.Step :=
  let push (body : StreamBody) (timestamp : Int) :=
    PlayEngine.Step.pushMessage { body, timestamp } true 0
  [push .notify 0, push (.video .interframe) 5000, push .audio 5010,
    push (.video .keyframe) 5020, .pause, push .audio 5030, .resume,
    .resetDropper, push .audio 5040]

end GroupVoip
