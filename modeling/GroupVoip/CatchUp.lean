import GroupVoip.FrameDropping

/-!
# Catching up

How a subscriber whose frames were dropped comes back to the whole stream once
nothing is pending for it any more.
-/

namespace GroupVoip

open Library.Runs

namespace VideoFrameDropper

variable {dropper : VideoFrameDropper} {type : FrameType}

/-- The keyframes that have to be sent before every frame is. -/
def keyframesNeeded : VideoFrameDropper → Nat
  | .sendAll | .sendInterframes => 0
  | .sendKeyframesCheck => 1
  | .sendKeyframes => 2

theorem keyframesNeeded_canSendPacket (dropper : VideoFrameDropper)
    (type : FrameType) :
    (dropper.canSendPacket type 0).2.keyframesNeeded =
      dropper.keyframesNeeded - if type = .keyframe then 1 else 0 := by
  cases dropper <;> cases type <;> rfl

theorem canSendPacket_nothingPending (dropper : VideoFrameDropper)
    (type : FrameType) :
    (dropper.canSendPacket type 0).1 =
      decide (type = .keyframe ∨ dropper.keyframesNeeded = 0) := by
  cases dropper <;> cases type <;> rfl

end VideoFrameDropper

namespace PlayEngine

variable {e t : PlayEngine} {a : Step}

/-- A subscriber that plays the video of a stream without an end. -/
structure Steady (e : PlayEngine) : Prop where
  playing : e.state = .playing
  receives : e.receiveVideo = true
  unlimited : e.length < 0

/-- Nothing is pending when a message comes, and the video stays switched
on. -/
def KeepsUp : Step → Prop
  | .pushMessage _ canDrop pendingVideos => canDrop = true ∧ pendingVideos = 0
  | .receiveVideo receive => receive = true
  | .receiveAudio _ => True
  | .pause | .resume | .resetDropper => False

instance : ∀ a, Decidable (KeepsUp a)
  | .pushMessage _ _ _ => inferInstanceAs (Decidable (_ ∧ _))
  | .receiveVideo _ => inferInstanceAs (Decidable (_ = true))
  | .receiveAudio _ => isTrue trivial
  | .pause | .resume | .resetDropper => isFalse id

theorem videoTurn_nothingPending (receives : e.receiveVideo = true)
    (type : FrameType) :
    e.videoTurn type true 0 =
      ((e.videoFrameDropper.canSendPacket type 0).1,
        { e with
          videoFrameDropper := (e.videoFrameDropper.canSendPacket type 0).2
          numSequentialPendingVideoFrames :=
            if (e.videoFrameDropper.canSendPacket type 0).1 then 0
            else e.numSequentialPendingVideoFrames }) := by
  have noThreshold : (0 : Int32) ≤ maxSequentialPendingVideoFrames := by
    decide
  cases result : (e.videoFrameDropper.canSendPacket type 0).1 with
  | false => simp [videoTurn, receives, result]
  | true => simp [videoTurn, receives, result, noThreshold]

/-- What a step of a steady subscriber does to its frames. -/
structure Follows (e : PlayEngine) (a : Step) (t : PlayEngine) : Prop where
  steady : t.Steady
  frame : e.frame a = [] ∧
      t.videoFrameDropper.keyframesNeeded =
        e.videoFrameDropper.keyframesNeeded ∨
    ∃ type, e.frame a = [(type,
        decide (type = .keyframe ∨ e.videoFrameDropper.keyframesNeeded = 0))] ∧
      t.videoFrameDropper.keyframesNeeded =
        e.videoFrameDropper.keyframesNeeded -
          if type = .keyframe then 1 else 0

theorem Steady.sendMessage (steady : e.Steady) (message : StreamMessage) :
    (e.sendMessage message).Steady := by
  rw [sendMessage_unlimited steady.unlimited]
  exact ⟨steady.playing, steady.receives, steady.unlimited⟩

theorem Steady.videoFrame (steady : e.Steady) {message : StreamMessage}
    {type : FrameType} (isBody : message.body = .video type) :
    e.Follows (.pushMessage message true 0) (e.pushMessage message true 0) := by
  have plays : e.state ≠ .paused := by
    rw [steady.playing]
    decide
  have turn := pushMessage_video true 0 isBody plays
  have same := (e.sameTimeline_videoTurn type true 0).pushed
  have sends : (e.videoTurn type true 0).1 = decide
      (type = .keyframe ∨ e.videoFrameDropper.keyframesNeeded = 0) := by
    rw [videoTurn_nothingPending steady.receives]
    exact e.videoFrameDropper.canSendPacket_nothingPending type
  have needed :
      (e.videoTurn type true 0).2.videoFrameDropper.keyframesNeeded =
        e.videoFrameDropper.keyframesNeeded -
          if type = .keyframe then 1 else 0 := by
    rw [videoTurn_nothingPending steady.receives]
    exact e.videoFrameDropper.keyframesNeeded_canSendPacket type
  have steadyNext : (e.videoTurn type true 0).2.Steady := by
    rw [videoTurn_nothingPending steady.receives]
    exact ⟨steady.playing, steady.receives, steady.unlimited⟩
  cases result : (e.videoTurn type true 0).1 with
  | false =>
      rw [result, if_neg Bool.false_ne_true] at turn
      rw [← turn] at steadyNext needed same
      refine ⟨steadyNext, .inr ⟨type, ?_, needed⟩⟩
      rw [← sends, result]
      exact frame_dropped isBody same
  | true =>
      rw [result, if_pos rfl] at turn
      have pushedOn := congrArg pushed
        (sendMessage_unlimited steadyNext.unlimited message)
      rw [← turn] at pushedOn
      refine ⟨?_, .inr ⟨type, ?_, ?_⟩⟩
      · rw [turn]
        exact steadyNext.sendMessage message
      · rw [← sends, result]
        exact frame_sent isBody (pushedOn.trans (by rw [doPushMessage, same]))
      · rw [turn, (sendMessage_cases _ message).1]
        exact needed

theorem Steady.pushMessage (steady : e.Steady) (message : StreamMessage) :
    e.Follows (.pushMessage message true 0) (e.pushMessage message true 0) := by
  have plays : e.state ≠ .paused := by
    rw [steady.playing]
    decide
  cases isBody : message.body with
  | video type => exact steady.videoFrame isBody
  | audio =>
      have noFrame : e.frame (.pushMessage message true 0) = [] := by
        simp only [PlayEngine.frame, isBody]
      rw [show e.pushMessage message true 0 = if e.receiveAudio = true then
        e.sendMessage message else if e.sendBlankAudio = true then
          { e with sendBlankAudio := false }.sendMessage e.blankAudio else e by
        simp only [PlayEngine.pushMessage, isBody, plays, if_false]]
      split_ifs
      · exact ⟨steady.sendMessage message, .inl ⟨noFrame, by
          rw [(sendMessage_cases e message).1]⟩⟩
      · have reset : { e with sendBlankAudio := false }.Steady :=
          ⟨steady.playing, steady.receives, steady.unlimited⟩
        exact ⟨reset.sendMessage _, .inl ⟨noFrame, by
          rw [(sendMessage_cases _ _).1]⟩⟩
      · exact ⟨steady, .inl ⟨noFrame, rfl⟩⟩
  | notify =>
      have noFrame : e.frame (.pushMessage message true 0) = [] := by
        simp only [PlayEngine.frame, isBody]
      rw [show e.pushMessage message true 0 = e.sendMessage message by
        simp only [PlayEngine.pushMessage, isBody, plays, if_false]]
      exact ⟨steady.sendMessage message, .inl ⟨noFrame, by
        rw [(sendMessage_cases e message).1]⟩⟩

theorem Steady.act (steady : e.Steady) (keepsUp : KeepsUp a) :
    ∃ t, e.act a = .ok t ∧ e.Follows a t := by
  have continues : e.state ≠ .stopped := by
    rw [steady.playing]
    decide
  unfold PlayEngine.act
  rw [if_neg continues]
  cases a with
  | pushMessage message canDrop pendingVideos =>
      obtain ⟨drops, nothing⟩ := keepsUp
      rw [drops, nothing]
      exact ⟨_, rfl, steady.pushMessage message⟩
  | pause | resume | resetDropper => exact False.elim keepsUp
  | receiveVideo receive =>
      exact ⟨_, rfl, ⟨steady.playing, keepsUp, steady.unlimited⟩,
        .inl ⟨rfl, rfl⟩⟩
  | receiveAudio receive =>
      exact ⟨_, rfl, ⟨steady.playing, steady.receives, steady.unlimited⟩,
        .inl ⟨rfl, rfl⟩⟩

end PlayEngine

def keyframes (frames : List (FrameType × Bool)) : Nat :=
  frames.countP fun f => f.1 = .keyframe

end GroupVoip
