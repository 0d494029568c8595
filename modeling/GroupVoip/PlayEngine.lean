import GroupVoip.CodecInfo
import GroupVoip.Library.Runs

/-!
# PlayEngine

The way of a live stream to one of its subscribers.  A subscriber that does
not keep up gets fewer video frames, by the state machine of
`VideoFrameDropper`.
-/

namespace GroupVoip

open Library.Runs

/-- `VideoData.FrameType` -/
inductive FrameType where
  | unknown
  | keyframe
  | interframe
  | disposableInterframe
deriving DecidableEq, Repr

/-! ## Dropping frames -/

/-- The states of `VideoFrameDropper`. -/
inductive VideoFrameDropper where
  | sendAll
  | sendInterframes
  | sendKeyframes
  | sendKeyframesCheck
deriving DecidableEq, Repr

namespace VideoFrameDropper

/-- Whether the frame may be sent, and the state behind it. -/
def canSendPacket (dropper : VideoFrameDropper) (type : FrameType)
    (pending : Nat) : Bool × VideoFrameDropper :=
  match dropper with
  | .sendAll => (true, .sendAll)
  | .sendInterframes =>
      (true,
        if type = .keyframe ∧ pending = 0 then .sendAll else .sendInterframes)
  | .sendKeyframes =>
      (type = .keyframe,
        if type = .keyframe ∧ pending = 0 then .sendKeyframesCheck
        else .sendKeyframes)
  | .sendKeyframesCheck =>
      (type = .keyframe,
        if type = .keyframe ∧ pending = 0 then .sendInterframes
        else .sendKeyframesCheck)

def dropPacket (dropper : VideoFrameDropper) (type : FrameType) :
    VideoFrameDropper :=
  match dropper with
  | .sendAll =>
      match type with
      | .interframe | .keyframe => .sendKeyframes
      | .disposableInterframe | .unknown => .sendAll
  | .sendInterframes =>
      match type with
      | .interframe => .sendKeyframesCheck
      | .keyframe => .sendKeyframes
      | .disposableInterframe | .unknown => .sendInterframes
  | .sendKeyframes => .sendKeyframes
  | .sendKeyframesCheck =>
      match type with
      | .keyframe => .sendKeyframes
      | .interframe | .disposableInterframe | .unknown => .sendKeyframesCheck

end VideoFrameDropper

/-! ## The engine -/

inductive StreamBody where
  | video (type : FrameType)
  | audio
  | notify
deriving DecidableEq, Repr

/-- An `RTMPMessage` with stream data.  A timestamp is a Java `int`. -/
structure StreamMessage where
  body : StreamBody
  timestamp : Int
  data : Bytes := []
deriving DecidableEq, Repr

inductive StreamState where
  | playing
  | paused
  | stopped
deriving DecidableEq, Repr

/-- `decision: 0 for Live, 1 for File, 2 for Wait, 3 for N/A` -/
inductive PlayDecision where
  | live
  | wait
deriving DecidableEq, Repr

/-- What a play engine keeps for a stream that is pushed to it, and the stream
data that it has pushed on. -/
structure PlayEngine where
  state : StreamState := .playing
  playDecision : PlayDecision := .live
  length : Int := -1
  receiveVideo : Bool := true
  receiveAudio : Bool := true
  sendBlankAudio : Bool := false
  videoFrameDropper : VideoFrameDropper := .sendKeyframesCheck
  numSequentialPendingVideoFrames : Int32 := 0
  streamStartTS : Int := -1
  lastMessageTs : Int := -1
  pushed : List StreamMessage := []
deriving DecidableEq, Repr

namespace PlayEngine

def maxPendingVideoFramesThreshold : Nat := 10
def maxSequentialPendingVideoFrames : Int32 := 10

variable (e : PlayEngine)

/-- The message starts the timeline anew. -/
def Restarts (ts : Int) : Prop :=
  (e.streamStartTS = -1 ∧ (0 < ts ∨ e.playDecision ≠ .live)) ∨
    ts < e.streamStartTS

instance (ts : Int) : Decidable (e.Restarts ts) :=
  inferInstanceAs (Decidable (_ ∨ _))

def startFor (ts : Int) : Int :=
  if e.Restarts ts then ts else e.streamStartTS

/-- The timestamp that the message is given, and the one that the length of
the item is compared with. -/
def relative (ts : Int) : Int × Int :=
  if e.playDecision = .live ∧ 0 < e.startFor ts then
    (ts - e.startFor ts, ts - e.startFor ts)
  else if e.Restarts ts then (0, ts)
  else (ts, ts)

def doPushMessage (message : StreamMessage) : PlayEngine :=
  { e with
    lastMessageTs := message.timestamp
    pushed := e.pushed ++ [message] }

/-- `sendMessage`, where `streamOffset` is 0 -/
def sendMessage (messageIn : StreamMessage) : PlayEngine :=
  let start := e.startFor messageIn.timestamp
  let out := e.relative messageIn.timestamp
  let started := { e with streamStartTS := start }
  if -1 < start ∧ 0 ≤ e.length ∧ e.length ≤ out.2 - start then
    { started with state := .stopped }
  else started.doPushMessage { messageIn with timestamp := out.1 }

/-- Whether the video frame is sent, with the state behind the decision.
`canDrop` says that the stream has a codec that can drop frames. -/
def videoTurn (type : FrameType) (canDrop : Bool) (pendingVideos : Nat) :
    Bool × PlayEngine :=
  if canDrop then
    if e.receiveVideo then
      let (result, dropper) := e.videoFrameDropper.canSendPacket type
        pendingVideos
      let e := { e with videoFrameDropper := dropper }
      if result then
        let count :=
          if 1 < pendingVideos then e.numSequentialPendingVideoFrames + 1
          else 0
        let e := { e with numSequentialPendingVideoFrames := count }
        if maxPendingVideoFramesThreshold < pendingVideos ∨
            maxSequentialPendingVideoFrames < count then
          (false, { e with
            videoFrameDropper := e.videoFrameDropper.dropPacket type })
        else (true, e)
      else (false, e)
    else
      (false, { e with
        videoFrameDropper := e.videoFrameDropper.dropPacket type })
  else (true, e)

/-- The blank packet that resets the player. -/
def blankAudio : StreamMessage where
  body := .audio
  timestamp := if 0 < e.lastMessageTs then e.lastMessageTs else 0

def pushMessage (message : StreamMessage) (canDrop : Bool)
    (pendingVideos : Nat) : PlayEngine :=
  match message.body with
  | .video type =>
      if e.state = .paused then
        { e with videoFrameDropper := e.videoFrameDropper.dropPacket type }
      else
        let (sent, e) := e.videoTurn type canDrop pendingVideos
        if sent then e.sendMessage message else e
  | .audio =>
      if e.state = .paused then e
      else if e.receiveAudio then e.sendMessage message
      else if e.sendBlankAudio then
        { e with sendBlankAudio := false }.sendMessage e.blankAudio
      else e
  | .notify => if e.state = .paused then e else e.sendMessage message

section Messages

variable {e : PlayEngine}

/-- What the timestamps depend on. -/
structure SameTimeline (e t : PlayEngine) : Prop where
  playDecision : t.playDecision = e.playDecision
  length : t.length = e.length
  sendBlankAudio : t.sendBlankAudio = e.sendBlankAudio
  streamStartTS : t.streamStartTS = e.streamStartTS
  pushed : t.pushed = e.pushed

theorem sameTimeline_videoTurn (e : PlayEngine) (type : FrameType)
    (canDrop : Bool) (pendingVideos : Nat) :
    SameTimeline e (e.videoTurn type canDrop pendingVideos).2 := by
  cases canDrop with
  | false => exact ⟨rfl, rfl, rfl, rfl, rfl⟩
  | true =>
      simp only [videoTurn, if_true]
      generalize (if 1 < pendingVideos then
        e.numSequentialPendingVideoFrames + 1 else 0) = count
      split_ifs <;> exact ⟨rfl, rfl, rfl, rfl, rfl⟩

/-- A stream without an end does not stop. -/
theorem sendMessage_unlimited (unlimited : e.length < 0)
    (message : StreamMessage) :
    e.sendMessage message =
      { e with streamStartTS := e.startFor message.timestamp }.doPushMessage
        { message with timestamp := (e.relative message.timestamp).1 } := by
  rw [sendMessage, if_neg]
  intro ends
  exact absurd ends.2.1 (Int.not_le.mpr unlimited)

end Messages

/-! ## Runs -/

/-- A resumed engine is reset by a step of its own, behind which messages may
have been pushed. -/
inductive Step where
  | pushMessage (message : StreamMessage) (canDrop : Bool)
      (pendingVideos : Nat)
  | pause
  | resume
  | resetDropper
  | receiveVideo (receive : Bool)
  | receiveAudio (receive : Bool)
deriving DecidableEq, Repr

/-- A stopped engine has unsubscribed.  Pausing and resuming send a ping,
whose timestamp is 0. -/
def act (a : Step) : Except Unit PlayEngine :=
  if e.state = .stopped then .error ()
  else
    match a with
    | .pushMessage message canDrop pendingVideos =>
        .ok (e.pushMessage message canDrop pendingVideos)
    | .pause =>
        if e.state = .paused then .error ()
        else .ok { e with state := .paused, lastMessageTs := 0 }
    | .resume =>
        if e.state = .paused then
          .ok { e with state := .playing, lastMessageTs := 0 }
        else .error ()
    | .resetDropper => .ok { e with videoFrameDropper := .sendKeyframesCheck }
    | .receiveVideo receive => .ok { e with receiveVideo := receive }
    | .receiveAudio receive =>
        .ok { e with
          receiveAudio := receive
          sendBlankAudio :=
            if e.receiveAudio && !receive then true else e.sendBlankAudio }

/-- The video frame that comes in with a step, if there is one, and whether it
is pushed on. -/
def frame : Step → List (FrameType × Bool)
  | .pushMessage message canDrop pendingVideos =>
      match message.body with
      | .video type =>
          [(type,
            (e.pushMessage message canDrop pendingVideos).pushed ≠ e.pushed)]
      | .audio | .notify => []
  | _ => []

/-- The video frames that come in with a run. -/
def frames : PlayEngine → List Step → List (FrameType × Bool)
  | _, [] => []
  | e, a :: rest =>
      match e.act a with
      | .ok next => e.frame a ++ next.frames rest
      | .error _ => []

end PlayEngine

end GroupVoip
