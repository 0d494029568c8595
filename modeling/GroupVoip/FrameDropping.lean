import GroupVoip.PlayEngine

/-!
# What a subscriber can decode

However frames are dropped for a subscriber, the ones that are sent can be
decoded: behind a frame that is left out and that later frames may refer to,
nothing but keyframes is sent until the chain is whole again.
-/

namespace GroupVoip

/-- The last keyframe was sent, and so was every interframe behind it. -/
def HasReference (frames : List (FrameType × Bool)) : Prop :=
  ∃ earlier later, frames = earlier ++ (.keyframe, true) :: later ∧
    ∀ f ∈ later, f.1 ≠ .keyframe ∧ (f.1 = .interframe → f.2 = true)

/-- Every frame that is sent is a keyframe or has what it refers to. -/
def Decodable (frames : List (FrameType × Bool)) : Prop :=
  ∀ before type after, frames = before ++ (type, true) :: after →
    type ≠ .keyframe → HasReference before

section Frames

variable {frames : List (FrameType × Bool)} {f : FrameType × Bool}

theorem hasReference_keyframe (frames : List (FrameType × Bool)) :
    HasReference (frames ++ [(.keyframe, true)]) :=
  ⟨frames, [], rfl, fun _ member => nomatch member⟩

theorem HasReference.snoc (reference : HasReference frames)
    (notKeyframe : f.1 ≠ .keyframe)
    (interframe : f.1 = .interframe → f.2 = true) :
    HasReference (frames ++ [f]) := by
  obtain ⟨earlier, later, split, whole⟩ := reference
  refine ⟨earlier, later ++ [f], by rw [split]; simp, ?_⟩
  intro g member
  rcases List.mem_append.mp member with before | isLast
  · exact whole g before
  · rw [List.mem_singleton.mp isLast]
    exact ⟨notKeyframe, interframe⟩

theorem Decodable.snoc (decodable : Decodable frames)
    (fits : f.2 = true → f.1 ≠ .keyframe → HasReference frames) :
    Decodable (frames ++ [f]) := by
  intro before type after split notKeyframe
  rcases List.eq_nil_or_concat after with isNil | ⟨front, last, isConcat⟩
  · rw [isNil] at split
    obtain ⟨same, isFrame⟩ := List.append_inj' split rfl
    cases isFrame
    rw [← same]
    exact fits rfl notKeyframe
  · rw [isConcat, List.concat_eq_append, ← List.cons_append,
      ← List.append_assoc] at split
    obtain ⟨same, _⟩ := List.append_inj' split rfl
    exact decodable before type front same notKeyframe

end Frames

/-! ## The state machine -/

namespace VideoFrameDropper

variable {dropper : VideoFrameDropper} {type : FrameType} {pending : Nat}
  {history : List (FrameType × Bool)}

/-- Interframes are sent in this state. -/
def SendsInterframes (dropper : VideoFrameDropper) : Prop :=
  dropper = .sendAll ∨ dropper = .sendInterframes

/-- Behind what is sent, the state only lets interframes through if they have
a reference. -/
def Sound (dropper : VideoFrameDropper)
    (history : List (FrameType × Bool)) : Prop :=
  dropper.SendsInterframes → HasReference history

theorem Sound.dropPacket (sound : dropper.Sound history) :
    (dropper.dropPacket type).Sound (history ++ [(type, false)]) := by
  intro sends
  cases dropper with
  | sendAll =>
      have reference := sound (.inl rfl)
      cases type with
      | interframe | keyframe =>
          simp [SendsInterframes, VideoFrameDropper.dropPacket] at sends
      | disposableInterframe | unknown =>
          exact reference.snoc (by simp) (by simp)
  | sendInterframes =>
      have reference := sound (.inr rfl)
      cases type with
      | interframe | keyframe =>
          simp [SendsInterframes, VideoFrameDropper.dropPacket] at sends
      | disposableInterframe | unknown =>
          exact reference.snoc (by simp) (by simp)
  | sendKeyframes =>
      simp [SendsInterframes, VideoFrameDropper.dropPacket] at sends
  | sendKeyframesCheck =>
      cases type <;>
        simp [SendsInterframes, VideoFrameDropper.dropPacket] at sends

/-- A keyframe that is dropped ends the interframes whatever the state is. -/
theorem sound_dropPacket_keyframe (dropper : VideoFrameDropper)
    (history : List (FrameType × Bool)) :
    (dropper.dropPacket .keyframe).Sound history := by
  intro sends
  cases dropper <;>
    simp [SendsInterframes, VideoFrameDropper.dropPacket] at sends

/-- Only a keyframe changes the state when it is asked about. -/
theorem canSendPacket_snd (notKeyframe : type ≠ .keyframe) :
    (dropper.canSendPacket type pending).2 = dropper := by
  cases dropper with
  | sendAll => rfl
  | sendInterframes | sendKeyframes | sendKeyframesCheck =>
      simp [canSendPacket, notKeyframe]

theorem sendsInterframes_of_canSendPacket (notKeyframe : type ≠ .keyframe)
    (result : (dropper.canSendPacket type pending).1 = true) :
    dropper.SendsInterframes := by
  cases dropper with
  | sendAll => exact .inl rfl
  | sendInterframes => exact .inr rfl
  | sendKeyframes | sendKeyframesCheck =>
      simp [canSendPacket, notKeyframe] at result

theorem Sound.sent (sound : dropper.Sound history)
    (result : (dropper.canSendPacket type pending).1 = true) :
    (dropper.canSendPacket type pending).2.Sound (history ++ [(type, true)]) ∧
      (type ≠ .keyframe → HasReference history) := by
  by_cases isKeyframe : type = .keyframe
  · rw [isKeyframe]
    exact ⟨fun _ => hasReference_keyframe history,
      fun other => absurd rfl other⟩
  · have reference :=
      sound (sendsInterframes_of_canSendPacket isKeyframe result)
    exact ⟨fun _ => reference.snoc isKeyframe (fun _ => rfl),
      fun _ => reference⟩

/-- A frame that is refused leaves a state that sends keyframes only. -/
theorem sound_refused
    (result : (dropper.canSendPacket type pending).1 = false) :
    (dropper.canSendPacket type pending).2.Sound history := by
  intro sends
  cases dropper with
  | sendAll => cases result
  | sendInterframes => cases result
  | sendKeyframes | sendKeyframesCheck =>
      have notKeyframe : type ≠ .keyframe := by
        simpa [canSendPacket] using result
      rw [canSendPacket_snd notKeyframe] at sends
      simp [SendsInterframes] at sends

/-- A frame may be dropped although it could have been sent. -/
theorem Sound.sentNot (sound : dropper.Sound history) :
    ((dropper.canSendPacket type pending).2.dropPacket type).Sound
      (history ++ [(type, false)]) := by
  by_cases isKeyframe : type = .keyframe
  · rw [isKeyframe]
    exact sound_dropPacket_keyframe _ _
  · rw [canSendPacket_snd isKeyframe]
    exact sound.dropPacket

end VideoFrameDropper

/-! ## The engine -/

namespace PlayEngine

open Library.Runs

variable {e t : PlayEngine} {a : Step} {history : List (FrameType × Bool)}

/-- The video frames among the messages. -/
def videoFrames (messages : List StreamMessage) : List FrameType :=
  messages.filterMap fun message =>
    match message.body with
    | .video type => some type
    | .audio | .notify => none

theorem videoFrames_append (first second : List StreamMessage) :
    videoFrames (first ++ second) = videoFrames first ++ videoFrames second :=
  List.filterMap_append

/-- The frames that were pushed on. -/
def sentFrames (frames : List (FrameType × Bool)) : List FrameType :=
  (frames.filter (·.2)).map (·.1)

theorem sentFrames_append (first second : List (FrameType × Bool)) :
    sentFrames (first ++ second) = sentFrames first ++ sentFrames second := by
  rw [sentFrames, List.filter_append, List.map_append]
  rfl

structure Sound (e : PlayEngine) (history : List (FrameType × Bool)) :
    Prop where
  dropper : e.state ≠ .stopped → e.videoFrameDropper.Sound history
  decodable : Decodable history
  pushed : videoFrames e.pushed = sentFrames history

/-- The stream has a codec that can drop frames. -/
def CanDrop : Step → Prop
  | .pushMessage _ canDrop _ => canDrop = true
  | _ => True

instance : ∀ a, Decidable (CanDrop a)
  | .pushMessage _ _ _ => inferInstanceAs (Decidable (_ = true))
  | .pause | .resume | .resetDropper | .receiveVideo _ | .receiveAudio _ =>
      isTrue trivial

/-- A message is pushed on, or it is the end of the item. -/
theorem sendMessage_cases (e : PlayEngine) (message : StreamMessage) :
    (e.sendMessage message).videoFrameDropper = e.videoFrameDropper ∧
      ((e.sendMessage message).state = .stopped ∧
          (e.sendMessage message).pushed = e.pushed ∨
        (e.sendMessage message).state = e.state ∧
          ∃ out : StreamMessage, out.body = message.body ∧
            (e.sendMessage message).pushed = e.pushed ++ [out]) := by
  rw [sendMessage]
  split
  · exact ⟨rfl, .inl ⟨rfl, rfl⟩⟩
  · refine ⟨rfl, .inr ⟨rfl, ?_⟩⟩
    exact ⟨{ message with timestamp := (e.relative message.timestamp).1 },
      rfl, rfl⟩

/-- A dropped frame leaves nothing behind but the state of the dropper. -/
theorem Sound.dropped (sound : e.Sound history) (type : FrameType)
    (kept : t.videoFrameDropper.Sound (history ++ [(type, false)]))
    (same : t.pushed = e.pushed) : t.Sound (history ++ [(type, false)]) where
  dropper := fun _ => kept
  decodable := sound.decodable.snoc (by simp)
  pushed := by
    rw [same, sentFrames_append, sound.pushed]
    exact (List.append_nil _).symm

/-- The other steps leave what the frames are judged by. -/
theorem Sound.unchanged (sound : e.Sound history)
    (sameDropper : t.videoFrameDropper = e.videoFrameDropper)
    (continues : t.state ≠ .stopped → e.state ≠ .stopped)
    (same : videoFrames t.pushed = videoFrames e.pushed) :
    t.Sound (history ++ []) := by
  rw [List.append_nil]
  constructor
  · intro plays
    rw [sameDropper]
    exact sound.dropper (continues plays)
  · exact sound.decodable
  · rw [same]
    exact sound.pushed

/-- Neither audio nor metadata has to do with the frames. -/
theorem Sound.sendMessage (sound : e.Sound history)
    {message : StreamMessage} (noVideo : videoFrames [message] = []) :
    (e.sendMessage message).Sound (history ++ []) := by
  obtain ⟨sameDropper, ends | ⟨sameState, out, body, pushedOn⟩⟩ :=
    sendMessage_cases e message
  · exact sound.unchanged sameDropper (fun plays => absurd ends.1 plays)
      (by rw [ends.2])
  · apply sound.unchanged sameDropper (fun plays => sameState ▸ plays)
    rw [pushedOn, videoFrames_append]
    have noFrame : videoFrames [out] = [] := by
      simpa only [videoFrames, List.filterMap_cons, body] using noVideo
    rw [noFrame, List.append_nil]

/-- What the decision about a frame leaves. -/
theorem videoTurn_sound (sound : e.videoFrameDropper.Sound history)
    (type : FrameType) (pendingVideos : Nat) :
    (e.videoTurn type true pendingVideos).2.videoFrameDropper.Sound
        (history ++ [(type, (e.videoTurn type true pendingVideos).1)]) ∧
      ((e.videoTurn type true pendingVideos).1 = true → type ≠ .keyframe →
        HasReference history) := by
  by_cases receives : e.receiveVideo = true
  · cases result :
      (e.videoFrameDropper.canSendPacket type pendingVideos).1 with
    | false =>
        simp only [videoTurn, receives, result, if_true, Bool.false_eq_true,
          if_false]
        exact ⟨VideoFrameDropper.sound_refused result,
          by simp⟩
    | true =>
        simp only [videoTurn, receives, result, if_true]
        generalize (if 1 < pendingVideos then
          e.numSequentialPendingVideoFrames + 1 else 0) = count
        split
        · exact ⟨sound.sentNot, by simp⟩
        · obtain ⟨kept, reference⟩ := sound.sent result
          exact ⟨kept, fun _ => reference⟩
  · simp only [videoTurn, receives, if_true, Bool.false_eq_true, if_false]
    exact ⟨sound.dropPacket, by simp⟩

section Pushing

variable {message : StreamMessage} {type : FrameType} {canDrop : Bool}
  {pendingVideos : Nat}

theorem frame_dropped (isBody : message.body = .video type)
    (same : (e.pushMessage message canDrop pendingVideos).pushed = e.pushed) :
    e.frame (.pushMessage message canDrop pendingVideos) = [(type, false)] := by
  simp [frame, isBody, same]

theorem frame_sent (isBody : message.body = .video type) {out : StreamMessage}
    (pushedOn : (e.pushMessage message canDrop pendingVideos).pushed =
      e.pushed ++ [out]) :
    e.frame (.pushMessage message canDrop pendingVideos) = [(type, true)] := by
  simp [frame, isBody, pushedOn]

theorem pushMessage_video (canDrop : Bool) (pendingVideos : Nat)
    (isBody : message.body = .video type) (plays : e.state ≠ .paused) :
    e.pushMessage message canDrop pendingVideos =
      if (e.videoTurn type canDrop pendingVideos).1 then
        (e.videoTurn type canDrop pendingVideos).2.sendMessage message
      else (e.videoTurn type canDrop pendingVideos).2 := by
  simp only [pushMessage, isBody, plays, if_false]

/-- One video frame. -/
theorem Sound.videoFrame (sound : e.Sound history) (plays : e.state ≠ .stopped)
    (isBody : message.body = .video type) :
    (e.pushMessage message true pendingVideos).Sound
      (history ++ e.frame (.pushMessage message true pendingVideos)) := by
  by_cases paused : e.state = .paused
  · have dropped : e.pushMessage message true pendingVideos =
        { e with
          videoFrameDropper := e.videoFrameDropper.dropPacket type } := by
      simp only [PlayEngine.pushMessage, isBody, paused, if_true]
    rw [frame_dropped isBody (by rw [dropped]), dropped]
    exact sound.dropped type (sound.dropper plays).dropPacket rfl
  · obtain ⟨kept, reference⟩ :=
      videoTurn_sound (sound.dropper plays) type pendingVideos
    have same := (e.sameTimeline_videoTurn type true pendingVideos).pushed
    have turn := pushMessage_video true pendingVideos isBody paused
    cases isSent : (e.videoTurn type true pendingVideos).1 with
    | false =>
        rw [isSent] at turn kept
        rw [frame_dropped isBody (by rw [turn]; exact same), turn]
        exact sound.dropped type kept same
    | true =>
        rw [isSent, if_pos rfl] at turn
        rw [isSent] at kept
        obtain ⟨sameDropper, ends | ⟨_, out, body, pushedOn⟩⟩ :=
          sendMessage_cases (e.videoTurn type true pendingVideos).2 message
        · rw [frame_dropped isBody (by rw [turn, ends.2, same]), turn]
          constructor
          · exact fun goesOn => absurd ends.1 goesOn
          · exact sound.decodable.snoc (by simp)
          · rw [ends.2, same, sentFrames_append, sound.pushed]
            exact (List.append_nil _).symm
        · rw [same] at pushedOn
          rw [frame_sent isBody (by rw [turn, pushedOn]), turn]
          constructor
          · intro _
            rw [sameDropper]
            exact kept
          · exact sound.decodable.snoc fun _ => reference isSent
          · rw [pushedOn, videoFrames_append, sentFrames_append, sound.pushed]
            simp [videoFrames, sentFrames, body, isBody]

end Pushing

theorem Sound.pushMessage (sound : e.Sound history)
    (plays : e.state ≠ .stopped) (message : StreamMessage)
    (pendingVideos : Nat) :
    (e.pushMessage message true pendingVideos).Sound
      (history ++ e.frame (.pushMessage message true pendingVideos)) := by
  cases isBody : message.body with
  | video type => exact sound.videoFrame plays isBody
  | audio =>
      simp only [PlayEngine.pushMessage, frame, isBody]
      split_ifs
      · exact sound.unchanged rfl id rfl
      · exact sound.sendMessage (by simp [videoFrames, isBody])
      · have reset : { e with sendBlankAudio := false }.Sound history :=
          ⟨sound.dropper, sound.decodable, sound.pushed⟩
        exact reset.sendMessage (by simp [videoFrames, blankAudio])
      · exact sound.unchanged rfl id rfl
  | notify =>
      simp only [PlayEngine.pushMessage, frame, isBody]
      split_ifs
      · exact sound.unchanged rfl id rfl
      · exact sound.sendMessage (by simp [videoFrames, isBody])

theorem Sound.act (sound : e.Sound history) (canDrop : CanDrop a)
    (stepped : e.act a = .ok t) : t.Sound (history ++ e.frame a) := by
  unfold PlayEngine.act at stepped
  by_cases plays : e.state = .stopped
  · rw [if_pos plays] at stepped
    cases stepped
  · rw [if_neg plays] at stepped
    cases a with
    | pushMessage message drops pendingVideos =>
        cases stepped
        rw [show drops = true from canDrop]
        exact sound.pushMessage plays message pendingVideos
    | pause =>
        dsimp only at stepped
        split at stepped
        · cases stepped
        · cases stepped
          exact sound.unchanged rfl (fun _ => plays) rfl
    | resume =>
        dsimp only at stepped
        split at stepped
        · cases stepped
          exact sound.unchanged rfl (fun _ => plays) rfl
        · cases stepped
    | resetDropper =>
        cases stepped
        constructor
        · intro _ sends
          simp [VideoFrameDropper.SendsInterframes] at sends
        · simpa [frame] using sound.decodable
        · simpa [frame] using sound.pushed
    | receiveVideo receive =>
        cases stepped
        exact sound.unchanged rfl id rfl
    | receiveAudio receive =>
        cases stepped
        exact sound.unchanged rfl id rfl

theorem Sound.frames {steps : List Step} :
    ∀ {e : PlayEngine} {history : List (FrameType × Bool)},
      e.Sound history → (∀ a ∈ steps, CanDrop a) →
        run PlayEngine.act e steps = .ok t →
          t.Sound (history ++ e.frames steps) := by
  induction steps with
  | nil =>
      intro e history sound _ reached
      cases reached
      rw [PlayEngine.frames, List.append_nil]
      exact sound
  | cons a rest inductionHypothesis =>
      intro e history sound canDrop reached
      rw [List.forall_mem_cons] at canDrop
      obtain ⟨next, stepped, continued⟩ := run_cons_ok.mp reached
      rw [PlayEngine.frames, stepped, ← List.append_assoc]
      exact inductionHypothesis (sound.act canDrop.1 stepped) canDrop.2
        continued

end PlayEngine

open Library.Runs

/-- Whatever is dropped for a subscriber, and however often it is paused,
resumed or switched off: each video frame that reaches it can be decoded from
those that reached it before. -/
theorem sentFrames_decodable {e t : PlayEngine} {steps : List PlayEngine.Step}
    (start : e.videoFrameDropper = .sendKeyframesCheck)
    (nothingPushed : e.pushed = [])
    (canDrop : ∀ a ∈ steps, PlayEngine.CanDrop a)
    (reached : run PlayEngine.act e steps = .ok t) :
    PlayEngine.videoFrames t.pushed = PlayEngine.sentFrames (e.frames steps) ∧
      Decodable (e.frames steps) := by
  have sound : e.Sound [] := by
    constructor
    · intro _ sends
      simp [start, VideoFrameDropper.SendsInterframes] at sends
    · intro before type after split
      simp at split
    · rw [nothingPushed]
      rfl
  have after := sound.frames canDrop reached
  rw [List.nil_append] at after
  exact ⟨after.pushed, after.decodable⟩

/-- The second interframe comes while eleven frames are pending. -/
def slowSubscriber : List PlayEngine.Step :=
  let push (type : FrameType) (timestamp : Int) (pendingVideos : Nat) :=
    PlayEngine.Step.pushMessage { body := .video type, timestamp } true
      pendingVideos
  [push .interframe 10 0, push .keyframe 20 0, push .interframe 30 0,
    push .interframe 40 11, push .interframe 50 2, push .keyframe 60 2,
    .pause, push .keyframe 70 0, .resume, .resetDropper,
    push .keyframe 80 0, push .interframe 90 0]

theorem sentFrames_decodable_slowSubscriber :
    ∃ t, run PlayEngine.act {} slowSubscriber = .ok t ∧
      PlayEngine.sentFrames (({} : PlayEngine).frames slowSubscriber) =
        [.keyframe, .interframe, .keyframe, .keyframe, .interframe] ∧
      Decodable (({} : PlayEngine).frames slowSubscriber) := by
  obtain ⟨t, reached⟩ := exists_ok (show
    (run PlayEngine.act {} slowSubscriber).isOk = true by decide +kernel)
  obtain ⟨_, decodable⟩ :=
    sentFrames_decodable rfl rfl (by decide +kernel) reached
  exact ⟨t, reached, by decide +kernel, decodable⟩

end GroupVoip
