import GroupVoip.FrameDropping

/-!
# A subscriber that falls behind

While more than one message is pending, the engine counts the frames that it
would send, and from ten on it drops them.
-/

namespace GroupVoip

open Library.Runs

namespace PlayEngine

variable {e t : PlayEngine} {a : Step}

/-- Whenever a message comes, two are still pending. -/
def FallsBehind : Step → Prop
  | .pushMessage _ canDrop pendingVideos => canDrop = true ∧ 1 < pendingVideos
  | _ => True

instance : ∀ a, Decidable (FallsBehind a)
  | .pushMessage _ _ _ => inferInstanceAs (Decidable (_ ∧ _))
  | .pause | .resume | .resetDropper | .receiveVideo _ | .receiveAudio _ =>
      isTrue trivial

/-- A frame is counted if it is sent, and then the count is at most ten. -/
inductive Counts (e t : PlayEngine) (sent : Nat) : Prop where
  | same
      (count : t.numSequentialPendingVideoFrames =
        e.numSequentialPendingVideoFrames)
      (isOut : sent = 0)
  | more
      (count : t.numSequentialPendingVideoFrames =
        e.numSequentialPendingVideoFrames + 1)
      (atMostOne : sent ≤ 1)
      (small : sent = 1 → ¬maxSequentialPendingVideoFrames <
        e.numSequentialPendingVideoFrames + 1)

theorem videoTurn_counts {pendingVideos : Nat} (behind : 1 < pendingVideos)
    (e : PlayEngine) (type : FrameType) :
    Counts e (e.videoTurn type true pendingVideos).2
      (e.videoTurn type true pendingVideos).1.toNat := by
  by_cases receives : e.receiveVideo = true
  · cases result :
      (e.videoFrameDropper.canSendPacket type pendingVideos).1 with
    | false =>
        simp only [videoTurn, receives, result, if_true, Bool.false_eq_true,
          if_false]
        exact .same rfl rfl
    | true =>
        simp only [videoTurn, receives, result, if_true, if_pos behind]
        by_cases tooMany : maxPendingVideoFramesThreshold < pendingVideos ∨
            maxSequentialPendingVideoFrames <
              e.numSequentialPendingVideoFrames + 1
        · rw [if_pos tooMany]
          exact .more rfl (Nat.zero_le 1) (by simp)
        · rw [if_neg tooMany]
          exact .more rfl (le_refl 1) (fun _ => (not_or.mp tooMany).2)
  · simp only [videoTurn, receives, if_true, Bool.false_eq_true, if_false]
    exact .same rfl rfl

theorem sendMessage_numSequentialPendingVideoFrames (e : PlayEngine)
    (message : StreamMessage) :
    (e.sendMessage message).numSequentialPendingVideoFrames =
      e.numSequentialPendingVideoFrames := by
  rw [sendMessage]
  split
  · rfl
  · rfl

theorem length_sentFrames_le (type : FrameType) (isSent : Bool) :
    (sentFrames [(type, isSent)]).length ≤ 1 := by
  cases isSent with
  | false => exact Nat.zero_le 1
  | true => exact le_refl 1

theorem counts_videoFrame {message : StreamMessage} {type : FrameType}
    {pendingVideos : Nat} (isBody : message.body = .video type)
    (behind : 1 < pendingVideos) :
    Counts e (e.pushMessage message true pendingVideos)
      (sentFrames
        (e.frame (.pushMessage message true pendingVideos))).length := by
  by_cases paused : e.state = .paused
  · have dropped : e.pushMessage message true pendingVideos =
        { e with
          videoFrameDropper := e.videoFrameDropper.dropPacket type } := by
      simp only [pushMessage, isBody, paused, if_true]
    rw [frame_dropped isBody (by rw [dropped]), dropped]
    exact .same rfl rfl
  · have turn := pushMessage_video true pendingVideos isBody paused
    have same := (e.sameTimeline_videoTurn type true pendingVideos).pushed
    have counts := videoTurn_counts behind e type
    cases isSent : (e.videoTurn type true pendingVideos).1 with
    | false =>
        rw [isSent, if_neg Bool.false_ne_true] at turn
        rw [isSent, ← turn] at counts
        rw [← turn] at same
        rw [frame_dropped isBody same]
        exact counts
    | true =>
        rw [isSent, if_pos rfl] at turn
        rw [isSent] at counts
        have kept := sendMessage_numSequentialPendingVideoFrames
          (e.videoTurn type true pendingVideos).2 message
        rw [← turn] at kept
        cases counts with
        | same count isOut => cases isOut
        | more count atMostOne small =>
            refine .more (kept.trans count) ?_ (fun _ => small rfl)
            simp only [frame, isBody]
            exact length_sentFrames_le type _

theorem counts_pushMessage {pendingVideos : Nat} (behind : 1 < pendingVideos)
    (message : StreamMessage) :
    Counts e (e.pushMessage message true pendingVideos)
      (sentFrames
        (e.frame (.pushMessage message true pendingVideos))).length := by
  cases isBody : message.body with
  | video type => exact counts_videoFrame isBody behind
  | audio =>
      simp only [pushMessage, frame, isBody]
      refine .same ?_ rfl
      split_ifs
      · rfl
      · exact sendMessage_numSequentialPendingVideoFrames e message
      · exact sendMessage_numSequentialPendingVideoFrames _ _
      · rfl
  | notify =>
      simp only [pushMessage, frame, isBody]
      refine .same ?_ rfl
      split_ifs
      · rfl
      · exact sendMessage_numSequentialPendingVideoFrames e message

theorem counts_act (behind : FallsBehind a) (stepped : e.act a = .ok t) :
    Counts e t (sentFrames (e.frame a)).length := by
  unfold PlayEngine.act at stepped
  by_cases stopped : e.state = .stopped
  · rw [if_pos stopped] at stepped
    cases stepped
  · rw [if_neg stopped] at stepped
    cases a with
    | pushMessage message canDrop pendingVideos =>
        cases stepped
        obtain ⟨drops, pending⟩ := behind
        rw [drops]
        exact counts_pushMessage pending message
    | pause | resume =>
        dsimp only at stepped
        split at stepped
        all_goals cases stepped
        exact .same rfl rfl
    | resetDropper | receiveVideo _ | receiveAudio _ =>
        cases stepped
        exact .same rfl rfl

theorem toInt_succ {count : Int32} (nonneg : 0 ≤ count.toInt)
    (small : count.toInt + 1 < 2147483648) :
    (count + 1).toInt = count.toInt + 1 := by
  rw [Int32.toInt_add, show (1 : Int32).toInt = 1 from rfl,
    Int.bmod_eq_of_le (by omega) (by omega)]

/-- What is sent in a step is counted, up to ten. -/
theorem Counts.bounds {sent : Nat} (counts : Counts e t sent)
    (nonneg : 0 ≤ e.numSequentialPendingVideoFrames.toInt)
    (small : e.numSequentialPendingVideoFrames.toInt + 1 < 2147483648) :
    (t.numSequentialPendingVideoFrames.toInt =
        e.numSequentialPendingVideoFrames.toInt ∧ sent = 0) ∨
      (t.numSequentialPendingVideoFrames.toInt =
          e.numSequentialPendingVideoFrames.toInt + 1 ∧
        (sent = 0 ∨ sent = 1 ∧
          e.numSequentialPendingVideoFrames.toInt + 1 ≤ 10)) := by
  cases counts with
  | same count isOut => exact .inl ⟨by rw [count], isOut⟩
  | more count atMostOne within =>
      refine .inr ⟨by rw [count, toInt_succ nonneg small], ?_⟩
      rcases Nat.le_one_iff_eq_zero_or_eq_one.mp atMostOne with isOut | isSent
      · exact .inl isOut
      · have limit := within isSent
        rw [Int32.lt_iff_toInt_lt, toInt_succ nonneg small, not_lt] at limit
        exact .inr ⟨isSent, limit⟩

end PlayEngine

/-- Keyframes for a subscriber that has three frames more. -/
def stuckSubscriber : List PlayEngine.Step :=
  List.replicate 5
    (.pushMessage { body := .video .keyframe, timestamp := 40 } true 2)

end GroupVoip
