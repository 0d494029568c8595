import GroupVoip.DrainCompleteness
import GroupVoip.FLVDelivery

/-!
# The calls behind an output

The writer of the segments keeps no record of what it packaged.  A backend
with a log of these calls runs in step with the one without, so what is shown
of the log is shown of the program.
-/

namespace GroupVoip

open Library.Runs

variable {V A β γ σ : Type}

/-! ## Backends in step -/

/-- `f` takes every call of one backend to the same call of another. -/
structure Backend.Carries (f : β → γ) (backend : Backend β)
    (plain : Backend γ) : Prop where
  mixVideo : ∀ b mix,
    plain.mixVideo (f b) mix = Prod.map f id (backend.mixVideo b mix)
  encodeVideo : ∀ b rawFrameMixed,
    plain.encodeVideo (f b) rawFrameMixed =
      Prod.map f id (backend.encodeVideo b rawFrameMixed)
  packageVideo : ∀ b videoPacket ts bIsKeyFrame streamId videoRect,
    plain.packageVideo (f b) videoPacket ts bIsKeyFrame streamId videoRect =
      f (backend.packageVideo b videoPacket ts bIsKeyFrame streamId videoRect)
  mixAudio : ∀ b mix,
    plain.mixAudio (f b) mix = Prod.map f id (backend.mixAudio b mix)
  encodeAudio : ∀ b mixer rawFrameMixed,
    plain.encodeAudio (f b) mixer rawFrameMixed =
      Prod.map f id (backend.encodeAudio b mixer rawFrameMixed)
  packageAudio : ∀ b audioPacket ts streamId,
    plain.packageAudio (f b) audioPacket ts streamId =
      f (backend.packageAudio b audioPacket ts streamId)
  getOneFrameForAllStreams : ∀ b,
    plain.getOneFrameForAllStreams (f b) =
      Prod.map f id (backend.getOneFrameForAllStreams b)

def MixCoder.mapOutput (f : β → γ) (m : MixCoder V A β) : MixCoder V A γ where
  flvSegParser := m.flvSegParser
  rawVideoData := m.rawVideoData
  rawAudioData := m.rawAudioData
  output := f m.output

def Session.mapOutput (f : β → γ) (session : Session V A β) :
    Session V A γ where
  mixCoder := session.mixCoder.mapOutput f
  outputs := session.outputs

namespace Backend.Carries

variable {f : β → γ} {backend : Backend β} {plain : Backend γ}

theorem mixVideoInstant (carries : Carries f backend plain) (b : β)
    (l : VideoLoop V A) (videoPts : UInt32) :
    GroupVoip.mixVideoInstant plain (f b) l videoPts =
      Prod.map f id (GroupVoip.mixVideoInstant backend b l videoPts) := by
  by_cases mixable : l.totalStreams > 0
  · rcases mixed : backend.mixVideo b
      { rawData := l.rawVideoData, totalStreams := l.totalStreams } with
      ⟨b', rawFrameMixed, videoRect⟩
    rcases encoded : backend.encodeVideo b' rawFrameMixed with
      ⟨b'', encodedFrame, bIsKeyFrame⟩
    have mixedToo := carries.mixVideo b
      { rawData := l.rawVideoData, totalStreams := l.totalStreams }
    have encodedToo := carries.encodeVideo b' rawFrameMixed
    rw [mixed] at mixedToo
    rw [encoded] at encodedToo
    rw [Encoders.mixVideoInstant_eq mixable mixed encoded,
      Encoders.mixVideoInstant_eq mixable mixedToo encodedToo]
    cases encodedFrame with
    | none => rfl
    | some encodedFrame =>
        have mobile : (if l.totalMobileStreams > 0 then
              Streams.slots.foldl (fun b i =>
                if videoMobile (l.rawVideoData i) then
                  plain.packageVideo b encodedFrame videoPts bIsKeyFrame
                    i.val (some (videoRect i))
                else b) (f b'')
            else f b'') =
            f (if l.totalMobileStreams > 0 then
              Streams.slots.foldl (fun b i =>
                if videoMobile (l.rawVideoData i) then
                  backend.packageVideo b encodedFrame videoPts bIsKeyFrame
                    i.val (some (videoRect i))
                else b) b''
            else b'') := by
          by_cases any : l.totalMobileStreams > 0
          · rw [if_pos any, if_pos any]
            apply List.foldl_hom
            intro b i
            by_cases isMobile : videoMobile (l.rawVideoData i) = true
            · rw [if_pos isMobile, if_pos isMobile, carries.packageVideo]
            · rw [if_neg isMobile, if_neg isMobile]
          · rw [if_neg any, if_neg any]
        simp only [mobile, carries.packageVideo,
          carries.getOneFrameForAllStreams]
        rfl
  · simp only [GroupVoip.mixVideoInstant, if_neg mixable]
    rfl

theorem mixAudioStream (carries : Carries f backend plain)
    (l : AudioLoop V A) (audioPts : UInt32) (state : β × List AudioMix)
    (mixer : Nat) (excludeStreamId : UInt32) :
    GroupVoip.mixAudioStream plain l audioPts (Prod.map f id state) mixer
        excludeStreamId =
      Prod.map f id (GroupVoip.mixAudioStream backend l audioPts state mixer
        excludeStreamId) := by
  simp only [GroupVoip.mixAudioStream, Prod.map_fst, carries.mixAudio,
    Prod.map_snd, id, carries.encodeAudio]
  cases (backend.encodeAudio _ mixer _).2 with
  | none => rfl
  | some encodedFrame =>
      simp only [carries.packageAudio]
      rfl

theorem mixAudioInstant (carries : Carries f backend plain) (b : β)
    (l : AudioLoop V A) (audioPts : UInt32) :
    GroupVoip.mixAudioInstant plain (f b) l audioPts =
      Prod.map f id (GroupVoip.mixAudioInstant backend b l audioPts) := by
  by_cases mixable : l.totalStreams > 0
  · have mobile : (if l.totalMobileStreams > 0 then
          Streams.slots.foldl (mixMobile plain l audioPts) (f b, [])
        else (f b, [])) =
        Prod.map f id (if l.totalMobileStreams > 0 then
          Streams.slots.foldl (mixMobile backend l audioPts) (b, [])
        else (b, [])) := by
      by_cases any : l.totalMobileStreams > 0
      · have start : (f b, []) = Prod.map f id (b, ([] : List AudioMix)) := rfl
        rw [if_pos any, if_pos any, start]
        apply List.foldl_hom
        intro state i
        by_cases isMobile : audioMobile (l.rawAudioData i) = true
        · rw [mixMobile, mixMobile, if_pos isMobile, if_pos isMobile,
            carries.mixAudioStream]
        · rw [mixMobile, mixMobile, if_neg isMobile, if_neg isMobile]
      · rw [if_neg any, if_neg any]
        rfl
    simp only [GroupVoip.mixAudioInstant, if_pos mixable, mobile,
      carries.mixAudioStream, Prod.map_fst, carries.getOneFrameForAllStreams]
    rfl
  · simp only [GroupVoip.mixAudioInstant, if_neg mixable]
    rfl

theorem videoOutput (carries : Carries f backend plain)
    (m : MixCoder V A β) (videoPts : UInt32) :
    (m.mapOutput f).videoOutput plain videoPts =
      Prod.map (MixCoder.mapOutput f) id (m.videoOutput backend videoPts) := by
  have sameLoop : Streams.slots.foldl (VideoLoop.turn videoPts)
      { stream := (m.mapOutput f).streams.stream
        rawVideoData := (m.mapOutput f).rawVideoData } =
      Streams.slots.foldl (VideoLoop.turn videoPts)
        { stream := m.streams.stream, rawVideoData := m.rawVideoData } := rfl
  have sameOutput : (m.mapOutput f).output = f m.output := rfl
  simp only [MixCoder.videoOutput, sameLoop, sameOutput]
  generalize Streams.slots.foldl (VideoLoop.turn videoPts)
    { stream := m.streams.stream, rawVideoData := m.rawVideoData } = l
  rw [carries.mixVideoInstant]
  rfl

theorem audioOutput (carries : Carries f backend plain)
    (m : MixCoder V A β) (audioPts : UInt32) :
    (m.mapOutput f).audioOutput plain audioPts =
      (m.audioOutput backend audioPts).map
        (Prod.map (MixCoder.mapOutput f) id) := by
  simp only [MixCoder.audioOutput]
  have sameLoop : Library.Runs.run AudioLoop.turn
      { stream := (m.mapOutput f).streams.stream
        rawAudioData := (m.mapOutput f).rawAudioData } Streams.slots =
      Library.Runs.run AudioLoop.turn
        { stream := m.streams.stream, rawAudioData := m.rawAudioData }
        Streams.slots := rfl
  rw [sameLoop]
  cases Library.Runs.run AudioLoop.turn
      { stream := m.streams.stream, rawAudioData := m.rawAudioData }
      Streams.slots with
  | error stopped => rfl
  | ok l =>
      have mixed := carries.mixAudioInstant m.output l audioPts
      have sameOutput : (m.mapOutput f).output = f m.output := rfl
      simp only [bind, Except.bind, sameOutput, mixed]
      rfl

theorem getOutput (carries : Carries f backend plain)
    (m : MixCoder V A β) :
    (m.mapOutput f).getOutput plain =
      (m.getOutput backend).map (Prod.map (MixCoder.mapOutput f) id) := by
  have sameStreams : (m.mapOutput f).streams = m.streams := rfl
  rw [MixCoder.getOutput, MixCoder.getOutput, sameStreams]
  cases m.streams.nextInstant with
  | error stopped => rfl
  | ok decided =>
      obtain ⟨instant, streams⟩ := decided
      cases instant with
      | none => rfl
      | audio audioPts =>
          exact carries.audioOutput (m.setStreams streams) audioPts
      | video videoPts =>
          exact congrArg Except.ok
            (carries.videoOutput (m.setStreams streams) videoPts)

theorem step (carries : Carries f backend plain) (codecs : Codecs V A)
    (session : Session V A β) (call : MixCall) :
    (session.step codecs backend call).map (Session.mapOutput f) =
      (session.mapOutput f).step codecs plain call := by
  cases call with
  | newInput inputBuf =>
      have sameParser : (session.mapOutput f).mixCoder.flvSegParser =
          session.mixCoder.flvSegParser := rfl
      rw [Session.step, Session.step, MixCoder.newInput, MixCoder.newInput,
        sameParser]
      cases session.mixCoder.flvSegParser.readData codecs inputBuf <;> rfl
  | getOutput =>
      have same := carries.getOutput session.mixCoder
      have sameCoder : (session.mapOutput f).mixCoder =
          session.mixCoder.mapOutput f := rfl
      rw [Session.step, Session.step, sameCoder, same]
      cases session.mixCoder.getOutput backend <;> rfl

/-- The runs of the two backends are in step. -/
theorem run (carries : Carries f backend plain) (codecs : Codecs V A)
    (session : Session V A β) (calls : List MixCall) :
    (Library.Runs.run (Session.step codecs backend) session calls).map
        (Session.mapOutput f) =
      Library.Runs.run (Session.step codecs plain) (session.mapOutput f)
        calls :=
  run_map (Session.mapOutput f) (carries.step codecs) session calls

end Backend.Carries

/-! ## The log -/

/-- A packaging call and the stream that it is for. -/
abbrev Packaged : Type := OutputSlot × PackageCall

/-- The calls for one stream, in order. -/
def callsFor (log : List Packaged) (i : OutputSlot) : List PackageCall :=
  (log.filter fun packaged => packaged.1 = i).map Prod.snd

theorem callsFor_append_same (log : List Packaged) (i : OutputSlot)
    (call : PackageCall) :
    callsFor (log ++ [(i, call)]) i = callsFor log i ++ [call] := by
  simp [callsFor, List.filter_append]

theorem callsFor_append_other (log : List Packaged) {i j : OutputSlot}
    (other : j ≠ i) (call : PackageCall) :
    callsFor (log ++ [(j, call)]) i = callsFor log i := by
  simp [callsFor, List.filter_append, other]

/-- A backend that keeps a log of the packaging calls. -/
def Backend.logged (backend : Backend β) :
    Backend (β × List Packaged) where
  mixVideo b mix :=
    let (s, rawFrameMixed, videoRect) := backend.mixVideo b.1 mix
    ((s, b.2), rawFrameMixed, videoRect)
  encodeVideo b rawFrameMixed :=
    let (s, encodedFrame, bIsKeyFrame) := backend.encodeVideo b.1 rawFrameMixed
    ((s, b.2), encodedFrame, bIsKeyFrame)
  packageVideo b videoPacket ts bIsKeyFrame streamId videoRect :=
    (backend.packageVideo b.1 videoPacket ts bIsKeyFrame streamId videoRect,
      b.2 ++ [(Encoders.outputSlot streamId,
        .packageVideoFrame videoPacket ts bIsKeyFrame videoRect)])
  mixAudio b mix :=
    let (s, rawFrameMixed) := backend.mixAudio b.1 mix
    ((s, b.2), rawFrameMixed)
  encodeAudio b mixer rawFrameMixed :=
    let (s, encodedFrame) := backend.encodeAudio b.1 mixer rawFrameMixed
    ((s, b.2), encodedFrame)
  packageAudio b audioPacket ts streamId :=
    (backend.packageAudio b.1 audioPacket ts streamId,
      b.2 ++ [(Encoders.outputSlot streamId,
        .packageAudioFrame audioPacket ts)])
  getOneFrameForAllStreams b :=
    let (s, result) := backend.getOneFrameForAllStreams b.1
    ((s, b.2), result)

theorem Backend.logged_carries (backend : Backend β) :
    Carries Prod.fst backend.logged backend where
  mixVideo _ _ := rfl
  encodeVideo _ _ := rfl
  packageVideo _ _ _ _ _ _ := rfl
  mixAudio _ _ := rfl
  encodeAudio _ _ _ := rfl
  packageAudio _ _ _ _ := rfl
  getOneFrameForAllStreams _ := rfl

/-- A run has a log. -/
theorem Session.exists_logged {codecs : Codecs V A} {backend : Backend β}
    {streamSource : Slot → StreamSource} {output : β} {calls : List MixCall}
    {session : Session V A β}
    (reached : run (Session.step codecs backend)
      (Session.start streamSource output) calls = .ok session) :
    ∃ logged : Session V A (β × List Packaged),
      run (Session.step codecs backend.logged)
        (Session.start streamSource (output, [])) calls = .ok logged ∧
      logged.mapOutput Prod.fst = session := by
  apply map_ok.mp
  rw [backend.logged_carries.run]
  exact reached

end GroupVoip
