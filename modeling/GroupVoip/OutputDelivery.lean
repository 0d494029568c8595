import GroupVoip.OutputLog
import GroupVoip.SegOutputParser

/-!
# From the encoders to the readers of the output

The writer fills the buffers of an instant stream by stream, and sends them
as one segment.  No buffer is filled twice before it is sent, so nothing that
was packaged is lost on the way to a reader of the segments.
-/

namespace GroupVoip

open Library.Runs Library.Loops

variable {V A β σ : Type}

namespace FLVOutput

/-- What successive calls on one writer give. -/
def tags (acid : UInt8) (calls : List PackageCall) : List Bytes :=
  calls.mapIdx fun k call => lead k ++ call.tag acid

theorem tags_append (acid : UInt8) (calls : List PackageCall)
    (call : PackageCall) :
    tags acid (calls ++ [call]) =
      tags acid calls ++ [lead calls.length ++ call.tag acid] := by
  rw [tags, List.mapIdx_append]
  simp [tags]

theorem tags_cons (acid : UInt8) (call : PackageCall)
    (rest : List PackageCall) :
    tags acid (call :: rest) =
      (flvHeader ++ call.tag acid) :: rest.map (PackageCall.tag acid) := by
  rw [tags, List.mapIdx_cons]
  congr 1
  exact List.mapIdx_eq_iff.mpr fun k => List.getElem?_map

/-- A file with the packets of a stream; without packets it is empty. -/
def file (acid : UInt8) (calls : List PackageCall) : Bytes :=
  if calls = [] then [] else flvHeader ++ calls.flatMap (PackageCall.tag acid)

theorem flatten_tags (acid : UInt8) (calls : List PackageCall) :
    (tags acid calls).flatten = file acid calls := by
  cases calls with
  | nil => rfl
  | cons call rest =>
      rw [tags_cons, List.flatten_cons, file, if_neg (by simp),
        List.flatMap_cons, List.flatMap_def, List.append_assoc]

/-- The header goes in front of a stream's first packet. -/
theorem withHeader_started (acid : UInt8) (calls : List PackageCall)
    (frame : Bytes) :
    ({ acid := acid, flvHeaderSent := decide (calls ≠ []) } :
        FLVOutput).withHeader frame =
      (lead calls.length ++ frame,
        { acid := acid, flvHeaderSent := true }) := by
  cases calls with
  | nil => rfl
  | cons call rest => rfl

end FLVOutput

namespace FLVSegmentOutput

def package (o : FLVSegmentOutput) (streamId : OutputSlot)
    (call : PackageCall) : Except Abort FLVSegmentOutput := do
  let (buffer, output) ← (o.output streamId).package call
  return {
    outputBuffer := Function.update o.outputBuffer streamId (some buffer)
    output := Function.update o.output streamId output }

/-- What is known of a writer: the segments sent so far and the buffers hold
every packet of the log once, each stream's in order. -/
structure Ledger (acid : UInt8) (sent : List FLVSegmentOutput)
    (w : FLVSegmentOutput) (log : List Packaged) : Prop where
  fillable : ∀ o ∈ sent, o.Fillable
  short : ∀ i, (w.pending i).length ≤ 33554432
  output : ∀ i, w.output i =
    { acid := acid, flvHeaderSent := decide (callsFor log i ≠ []) }
  packets : ∀ i, ((sent ++ [w]).map fun o => o.pending i).filter
    (fun packet => packet ≠ []) = FLVOutput.tags acid (callsFor log i)
  fits : ∀ packaged ∈ log, packaged.2.Fits

theorem ledger_start (acid : UInt8) : Ledger acid [] (start acid) [] where
  fillable _ member := nomatch member
  short _ := Nat.zero_le _
  output _ := rfl
  packets _ := rfl
  fits _ member := nomatch member

namespace Ledger

variable {acid : UInt8} {sent : List FLVSegmentOutput} {w : FLVSegmentOutput}
  {log : List Packaged}

/-- A packet for a stream whose buffer is free. -/
theorem package (ledger : Ledger acid sent w log) {i : OutputSlot}
    (free : w.pending i = []) {call : PackageCall} (fits : call.Fits) :
    ∃ w', w.package i call = .ok w' ∧ Ledger acid sent w' (log ++ [(i, call)]) ∧
      ∀ j, w'.pending j ≠ [] → w.pending j ≠ [] ∨ j = i := by
  let frame := FLVOutput.lead (callsFor log i).length ++ call.tag acid
  let w' : FLVSegmentOutput := {
    outputBuffer := Function.update w.outputBuffer i (some frame)
    output := Function.update w.output i
      { acid := acid, flvHeaderSent := true } }
  have packaged : w.package i call = .ok w' := by
    rw [FLVSegmentOutput.package, FLVOutput.package_eq _ fits,
      ledger.output i, FLVOutput.withHeader_started]
    rfl
  have here : w'.pending i = frame := by
    simp [pending, w']
  have others : ∀ j, j ≠ i → w'.pending j = w.pending j := by
    intro j other
    simp [pending, w', other]
  have tagLength : (call.tag acid).length = 15 + (call.body acid).length :=
    length_wireTag _ _ _
  have bodyLength := PackageCall.length_body_lt fits acid
  refine ⟨w', packaged, ⟨ledger.fillable, ?_, ?_, ?_, ?_⟩, ?_⟩
  · intro j
    by_cases same : j = i
    · subst same
      have leadLength : (FLVOutput.lead (callsFor log j).length).length ≤
          319 := by
        rw [FLVOutput.lead]
        split
        · exact le_of_eq FLVOutput.length_flvHeader
        · exact Nat.zero_le _
      rw [here, List.length_append]
      omega
    · rw [others j same]
      exact ledger.short j
  · intro j
    by_cases same : j = i
    · subst same
      rw [callsFor_append_same]
      simp [w']
    · rw [callsFor_append_other log (Ne.symm same)]
      simp only [w', Function.update_of_ne same]
      exact ledger.output j
  · intro j
    have before := ledger.packets j
    rw [List.map_append, List.filter_append] at before ⊢
    by_cases same : j = i
    · subst same
      have nonempty : frame ≠ [] := by
        intro empty
        rw [(List.append_eq_nil_iff.mp empty).2, List.length_nil] at tagLength
        omega
      have nothing : ([w].map fun o => o.pending j).filter
          (fun packet => packet ≠ []) = [] := by
        simp [free]
      have something : ([w'].map fun o => o.pending j).filter
          (fun packet => packet ≠ []) = [frame] := by
        simp [here, nonempty]
      rw [nothing, List.append_nil] at before
      rw [callsFor_append_same, FLVOutput.tags_append, before, something]
    · have sameHere : ([w'].map fun o => o.pending j) =
          [w].map fun o => o.pending j := by
        simp [others j same]
      rw [callsFor_append_other log (Ne.symm same), sameHere]
      exact before
  · intro packaged member
    rcases List.mem_append.mp member with old | new
    · exact ledger.fits packaged old
    · rw [List.mem_singleton.mp new]
      exact fits
  · intro j busy
    by_cases same : j = i
    · exact .inr same
    · rw [others j same] at busy
      exact .inl busy

/-- The buffers go out, if there is something in them. -/
theorem send (ledger : Ledger acid sent w log) :
    ∃ result w' more, w.getOneFrameForAllStreams = .ok (result, w') ∧
      Ledger acid (sent ++ more) w' log ∧ (∀ i, w'.pending i = []) ∧
      result.getD [] = more.flatMap segment ∧ ∀ o ∈ more, o = w := by
  by_cases busy : ∃ i, w.pending i ≠ []
  · have fillable : w.Fillable := ⟨ledger.short, busy⟩
    refine ⟨some w.segment, w.reset, [w], fillable.getOneFrame_eq,
      ⟨?_, ?_, ledger.output, ?_, ledger.fits⟩, w.reset_pending, by simp,
      by simp⟩
    · intro o member
      rcases List.mem_append.mp member with old | new
      · exact ledger.fillable o old
      · rw [List.mem_singleton.mp new]
        exact fillable
    · intro i
      rw [w.reset_pending i]
      exact Nat.zero_le _
    · intro i
      rw [List.map_append, List.filter_append, ledger.packets i]
      simp [w.reset_pending i]
  · have idle : ∀ i, w.pending i = [] := by
      intro i
      by_contra some
      exact busy ⟨i, some⟩
    have nothing : ¬ w.countStreams.totalLen > 0 := by
      rw [countStreams_idle idle]
      decide
    refine ⟨none, w, [], if_neg nothing, ?_, idle, rfl, by simp⟩
    rw [List.append_nil]
    exact ledger

end Ledger

end FLVSegmentOutput

/-! ## An instant -/

namespace Encoders

/-- Packets and rectangles that fit into tags. -/
structure FitTags (e : Encoders σ) : Prop where
  packets : e.SmallPackets
  rects : ∀ s mix i, ((e.mixVideo s mix).2.2 i).Fits

/-- In the middle of an instant only the streams of a list have packets to
send. -/
def Filling (acid : UInt8) (sent : List FLVSegmentOutput)
    (b : (σ × Except Abort FLVSegmentOutput) × List Packaged)
    (done : List OutputSlot) : Prop :=
  ∃ w, b.1.2 = .ok w ∧ FLVSegmentOutput.Ledger acid sent w b.2 ∧
    ∀ i, w.pending i ≠ [] → i ∈ done

section Filling

variable {acid : UInt8} {sent : List FLVSegmentOutput}
  {b : (σ × Except Abort FLVSegmentOutput) × List Packaged}
  {done : List OutputSlot}

theorem Filling.package (filling : Filling acid sent b done) {i : OutputSlot}
    (next : i ∉ done) (call : PackageCall) (fits : call.Fits) (s : σ) :
    Filling acid sent
      ((s, b.1.2.bind fun o => o.package i call), b.2 ++ [(i, call)])
      (done ++ [i]) := by
  obtain ⟨w, isOk, ledger, only⟩ := filling
  have free : w.pending i = [] := by
    by_contra busy
    exact next (only i busy)
  obtain ⟨w', packaged, ledger', onlyNew⟩ := ledger.package free fits
  refine ⟨w', ?_, ledger', ?_⟩
  · rw [isOk]
    exact packaged
  · intro j busy
    rw [List.mem_append, List.mem_singleton]
    exact (onlyNew j busy).imp_left (only j)

theorem Filling.mono (filling : Filling acid sent b done)
    (more : List OutputSlot) : Filling acid sent b (done ++ more) := by
  obtain ⟨w, isOk, ledger, only⟩ := filling
  exact ⟨w, isOk, ledger, fun i busy =>
    List.mem_append_left more (only i busy)⟩

theorem Filling.mixAudioStream {e : Encoders σ} (fits : e.FitTags)
    (l : AudioLoop V A) (audioPts : UInt32)
    {state : ((σ × Except Abort FLVSegmentOutput) × List Packaged) ×
      List AudioMix}
    (filling : Filling acid sent state.1 done) {mixer : Nat}
    (next : outputSlot mixer ∉ done) (excludeStreamId : UInt32) :
    Filling acid sent (GroupVoip.mixAudioStream e.backend.logged l audioPts
      state mixer excludeStreamId).1 (done ++ [outputSlot mixer]) := by
  simp only [GroupVoip.mixAudioStream, Backend.logged, backend]
  cases encoded : (e.encodeAudio (e.mixAudio state.1.1.1 _).1 mixer
      (e.mixAudio state.1.1.1 _).2).2 with
  | none => exact filling.mono _
  | some packet =>
      exact filling.package next (.packageAudioFrame packet audioPts)
        (fits.packets.2 _ _ _ _ encoded) _

/-- The numbers of the mobile streams are slots of their own. -/
theorem outputSlot_castSucc (i : Slot) : outputSlot i.val = Fin.castSucc i :=
  Fin.ext (Nat.mod_eq_of_lt (Nat.lt_succ_of_lt i.isLt))

/-- The loop over the mobile streams packages for each of them once. -/
theorem Filling.foldl_mobile {τ : Type}
    (backendOf : τ → (σ × Except Abort FLVSegmentOutput) × List Packaged)
    {turn : τ → Slot → τ} {mobile : Slot → Bool}
    (turnMobile : ∀ state i done, mobile i = true →
      Fin.castSucc i ∉ done → Filling acid sent (backendOf state) done →
      Filling acid sent (backendOf (turn state i)) (done ++ [Fin.castSucc i]))
    (turnOther : ∀ state i, ¬ mobile i = true → turn state i = state)
    (indexes : List Slot) :
    ∀ {state : τ} {done : List OutputSlot},
      indexes.Nodup → (∀ i ∈ indexes, Fin.castSucc i ∉ done) →
      Filling acid sent (backendOf state) done →
      Filling acid sent (backendOf (indexes.foldl turn state))
        (done ++ (indexes.filter mobile).map Fin.castSucc) := by
  induction indexes with
  | nil =>
      intro state done _ _ filling
      exact filling.mono _
  | cons i rest inductionHypothesis =>
      intro state done distinct free filling
      obtain ⟨notLater, distinctRest⟩ := List.nodup_cons.mp distinct
      rw [List.foldl_cons]
      by_cases isMobile : mobile i = true
      · have one := turnMobile state i done isMobile
          (free i List.mem_cons_self) filling
        have later := inductionHypothesis distinctRest (by
          intro j member inDone
          rcases List.mem_append.mp inDone with before | here
          · exact free j (List.mem_cons_of_mem i member) before
          · have same := Fin.castSucc_injective _ (List.mem_singleton.mp here)
            exact notLater (same ▸ member)) one
        rw [List.filter_cons_of_pos isMobile, List.map_cons]
        rw [List.append_assoc] at later
        exact later
      · rw [turnOther state i isMobile, List.filter_cons_of_neg isMobile]
        exact inductionHypothesis distinctRest
          (fun j member => free j (List.mem_cons_of_mem i member)) filling

/-- What a call of `getOutput` sends: at most one segment, and in it no more
mobile streams than the instant has. -/
def Sends (acid : UInt8) (sent : List FLVSegmentOutput) (mobile : Nat)
    (b : (σ × Except Abort FLVSegmentOutput) × List Packaged)
    (resultFlvPacket : Option Bytes) : Prop :=
  ∃ more, Filling acid (sent ++ more) b [] ∧
    resultFlvPacket.getD [] = more.flatMap FLVSegmentOutput.segment ∧
    ∀ o ∈ more, o.busySlots.length ≤ mobile

theorem Filling.sendsNothing (filling : Filling acid sent b [])
    (mobile : Nat) : Sends acid sent mobile b none :=
  ⟨[], by rwa [List.append_nil], rfl, fun _ member => nomatch member⟩

theorem Filling.send {mobile : Slot → Bool}
    (filling : Filling acid sent b
      ((Streams.slots.filter mobile).map Fin.castSucc ++
        [FLVSegmentOutput.allIn])) (e : Encoders σ) :
    Sends acid sent (Streams.slots.countP mobile)
      (e.backend.logged.getOneFrameForAllStreams b).1
      (e.backend.logged.getOneFrameForAllStreams b).2 := by
  obtain ⟨w, isOk, ledger, only⟩ := filling
  obtain ⟨result, w', more, framed, ledger', free, bytes, same⟩ := ledger.send
  have sending : e.backend.logged.getOneFrameForAllStreams b =
      (((b.1.1, .ok w'), b.2), result) := by
    have bound : b.1.2.bind FLVSegmentOutput.getOneFrameForAllStreams =
        .ok (result, w') := by
      rw [isOk]
      exact framed
    simp only [Backend.logged, backend, bound]
  rw [sending]
  refine ⟨more, ⟨w', rfl, ledger', fun i busy => absurd (free i) busy⟩, bytes,
    ?_⟩
  intro o member
  rw [same o member, FLVSegmentOutput.length_busySlots]
  apply List.countP_mono_left
  intro i _ busy
  rcases List.mem_append.mp (only _ (by simpa using busy)) with isMobile | last
  · obtain ⟨j, among, equal⟩ := List.mem_map.mp isMobile
    rw [← Fin.castSucc_injective _ equal]
    exact (List.mem_filter.mp among).2
  · exact absurd (List.mem_singleton.mp last) (Fin.castSucc_lt_last i).ne

theorem outputSlot_allIn :
    outputSlot MAX_XCODING_INSTANCES = FLVSegmentOutput.allIn :=
  rfl

theorem allIn_notMobile (indexes : List Slot) :
    FLVSegmentOutput.allIn ∉ indexes.map Fin.castSucc := by
  intro member
  obtain ⟨i, _, equal⟩ := List.mem_map.mp member
  exact (Fin.castSucc_lt_last i).ne equal

theorem Filling.mixAudioInstant {e : Encoders σ} (fits : e.FitTags)
    (l : AudioLoop V A) (audioPts : UInt32)
    (filling : Filling acid sent b [])
    (mobileCounted : l.totalMobileStreams =
      Streams.slots.countP fun i => audioMobile (l.rawAudioData i)) :
    Sends acid sent l.totalMobileStreams
      (GroupVoip.mixAudioInstant e.backend.logged b l audioPts).1
      (GroupVoip.mixAudioInstant e.backend.logged b l audioPts).2.2 := by
  by_cases mixable : l.totalStreams > 0
  · have mobile : Filling acid sent (if l.totalMobileStreams > 0 then
          Streams.slots.foldl (mixMobile e.backend.logged l audioPts) (b, [])
        else (b, [])).1
        ((Streams.slots.filter fun i =>
          audioMobile (l.rawAudioData i)).map Fin.castSucc) := by
      by_cases any : l.totalMobileStreams > 0
      · rw [if_pos any]
        refine Filling.foldl_mobile Prod.fst ?_ ?_ Streams.slots
          Streams.slots_nodup (fun _ _ => List.not_mem_nil) filling
        · intro state i done isMobile free before
          rw [← outputSlot_castSucc] at free ⊢
          rw [mixMobile, if_pos isMobile]
          exact before.mixAudioStream fits l audioPts free _
        · intro state i notMobile
          exact if_neg notMobile
      · rw [if_neg any]
        exact filling.mono _
    simp only [GroupVoip.mixAudioInstant, if_pos mixable]
    generalize (if l.totalMobileStreams > 0 then
        Streams.slots.foldl (mixMobile e.backend.logged l audioPts) (b, [])
      else (b, [])) = state at mobile ⊢
    rw [mobileCounted]
    exact (mobile.mixAudioStream fits l audioPts (allIn_notMobile _)
      MAX_U32).send e
  · simp only [GroupVoip.mixAudioInstant, if_neg mixable]
    exact filling.sendsNothing _

theorem Filling.packageVideo (e : Encoders σ) {packet : Bytes}
    (small : packet.length < 16777216 - 9) (videoPts : UInt32)
    (bIsKeyFrame : Bool) (filling : Filling acid sent b done)
    (streamId : Nat) (next : outputSlot streamId ∉ done)
    (videoRect : Option VideoRect) (rectFits : ∀ r ∈ videoRect, r.Fits) :
    Filling acid sent (e.backend.logged.packageVideo b packet videoPts
      bIsKeyFrame streamId videoRect) (done ++ [outputSlot streamId]) :=
  filling.package next
    (.packageVideoFrame packet videoPts bIsKeyFrame videoRect)
    ⟨small, rectFits⟩ _

theorem Filling.mixVideoInstant {e : Encoders σ} (fits : e.FitTags)
    (l : VideoLoop V A) (videoPts : UInt32)
    (filling : Filling acid sent b [])
    (mobileCounted : l.totalMobileStreams =
      Streams.slots.countP fun i => videoMobile (l.rawVideoData i)) :
    Sends acid sent l.totalMobileStreams
      (GroupVoip.mixVideoInstant e.backend.logged b l videoPts).1
      (GroupVoip.mixVideoInstant e.backend.logged b l videoPts).2.2 := by
  by_cases mixable : l.totalStreams > 0
  · rcases mixed : e.backend.logged.mixVideo b
      { rawData := l.rawVideoData, totalStreams := l.totalStreams } with
      ⟨b', rawFrameMixed, videoRect⟩
    rcases encoded : e.backend.logged.encodeVideo b' rawFrameMixed with
      ⟨b'', encodedFrame, bIsKeyFrame⟩
    rw [mixVideoInstant_eq mixable mixed encoded]
    have rects : ∀ i, (videoRect i).Fits := by
      cases mixed
      exact fits.rects _ _
    have small : ∀ packet ∈ encodedFrame, packet.length < 16777216 - 9 := by
      cases encoded
      exact fits.packets.1 _ _
    have untouched : Filling acid sent b'' [] := by
      cases mixed
      cases encoded
      exact filling
    cases encodedFrame with
    | none => exact untouched.sendsNothing _
    | some packet =>
        have mobile : Filling acid sent (if l.totalMobileStreams > 0 then
              Streams.slots.foldl (fun b i =>
                if videoMobile (l.rawVideoData i) then
                  e.backend.logged.packageVideo b packet videoPts bIsKeyFrame
                    i.val (some (videoRect i))
                else b) b''
            else b'')
            ((Streams.slots.filter fun i =>
              videoMobile (l.rawVideoData i)).map Fin.castSucc) := by
          by_cases any : l.totalMobileStreams > 0
          · rw [if_pos any]
            refine Filling.foldl_mobile id ?_ ?_ Streams.slots
              Streams.slots_nodup (fun _ _ => List.not_mem_nil) untouched
            · intro state i done isMobile free before
              rw [← outputSlot_castSucc] at free ⊢
              rw [if_pos isMobile]
              exact before.packageVideo e (small packet rfl) videoPts
                bIsKeyFrame i.val free (some (videoRect i)) fun r isRect =>
                  Option.mem_some.mp isRect ▸ rects i
            · intro state i notMobile
              exact if_neg notMobile
          · rw [if_neg any]
            exact untouched.mono _
        have sends := (mobile.packageVideo e (small packet rfl) videoPts
          bIsKeyFrame MAX_XCODING_INSTANCES (allIn_notMobile _) none
          fun r isRect => nomatch isRect).send e
        rw [← mobileCounted] at sends
        exact sends
  · simp only [GroupVoip.mixVideoInstant, if_neg mixable]
    exact filling.sendsNothing _

end Filling

end Encoders

/-! ## A run -/

namespace VideoLoop

theorem totalMobile (videoPts : UInt32) (l : VideoLoop V A) :
    (Streams.slots.foldl (turn videoPts) l).totalMobileStreams =
      l.totalMobileStreams + Streams.slots.countP fun i => videoMobile
        ((Streams.slots.foldl (turn videoPts) l).rawVideoData i) := by
  have looped := turns_foldl (turn videoPts) Streams.slots l
  generalize Streams.slots.foldl (turn videoPts) l = l' at looped ⊢
  refine looped.count (fun entry => videoMobile entry.2.1) (frames videoPts) ?_
    Streams.slots_nodup
  intro i l l' turned
  rw [turned]
  simp [view, turn]

end VideoLoop

namespace MixCoder

open Encoders

variable {acid : UInt8} {sent : List FLVSegmentOutput} {e : Encoders σ}
  {m m' : MixCoder V A ((σ × Except Abort FLVSegmentOutput) × List Packaged)}
  {out : Output}

theorem videoOutput_sends (fits : e.FitTags)
    (filling : Filling acid sent m.output []) {videoPts : UInt32}
    (taken : m.videoOutput e.backend.logged videoPts = (m', out)) :
    Sends acid sent out.totalMobileStreams m'.output out.resultFlvPacket := by
  have mobile := VideoLoop.totalMobile videoPts
    { stream := m.streams.stream, rawVideoData := m.rawVideoData }
  unfold videoOutput at taken
  generalize Streams.slots.foldl (VideoLoop.turn videoPts) _ = l
    at taken mobile
  have sends := filling.mixVideoInstant fits l videoPts (by simpa using mobile)
  rcases mixed : mixVideoInstant e.backend.logged m.output l videoPts with
    ⟨b, mixes, resultFlvPacket⟩
  rw [mixed] at sends
  simp only [mixed] at taken
  cases taken
  exact sends

theorem audioOutput_sends (fits : e.FitTags)
    (filling : Filling acid sent m.output []) {audioPts : UInt32}
    (taken : m.audioOutput e.backend.logged audioPts = .ok (m', out)) :
    Sends acid sent out.totalMobileStreams m'.output out.resultFlvPacket := by
  obtain ⟨l, looped, rest⟩ := bind_ok.mp taken
  have mobile := (AudioLoop.finished looped).mobile
  have sends := filling.mixAudioInstant fits l audioPts (by simpa using mobile)
  cases rest
  exact sends

theorem getOutput_sends (fits : e.FitTags)
    (filling : Filling acid sent m.output [])
    (taken : m.getOutput e.backend.logged = .ok (m', out)) :
    Sends acid sent out.totalMobileStreams m'.output out.resultFlvPacket := by
  obtain ⟨instant, streams, _, carriedOut⟩ := getOutput_ok taken
  cases instant with
  | none =>
      rw [carriedOut.1, carriedOut.2]
      exact filling.sendsNothing _
  | video videoPts =>
      exact videoOutput_sends (m := m.setStreams streams) fits filling
        carriedOut
  | audio audioPts =>
      exact audioOutput_sends (m := m.setStreams streams) fits filling
        carriedOut

end MixCoder

namespace Session

open Encoders

/-- What the outputs so far amount to. -/
def sentBytes (session : Session V A β) : Bytes :=
  session.outputs.flatMap fun out => out.resultFlvPacket.getD []

/-- Every packet packaged so far went out in one of the segments. -/
def Delivers (acid : UInt8)
    (session : Session V A
      ((σ × Except Abort FLVSegmentOutput) × List Packaged))
    (sent : List FLVSegmentOutput) : Prop :=
  Filling acid sent session.mixCoder.output [] ∧
    session.sentBytes = sent.flatMap FLVSegmentOutput.segment ∧
    ∀ o ∈ sent, ∃ out ∈ session.outputs,
      o.busySlots.length ≤ out.totalMobileStreams

variable {acid : UInt8} {codecs : Codecs V A} {e : Encoders σ}

theorem delivers_step (fits : e.FitTags)
    {session session' : Session V A
      ((σ × Except Abort FLVSegmentOutput) × List Packaged)}
    {call : MixCall} (delivers : ∃ sent, session.Delivers acid sent)
    (stepped : session.step codecs e.backend.logged call = .ok session') :
    ∃ sent, session'.Delivers acid sent := by
  obtain ⟨sent, filling, bytes, few⟩ := delivers
  cases call with
  | newInput inputBuf =>
      obtain ⟨m', fed, rest⟩ := bind_ok.mp stepped
      obtain ⟨flvSegParser, _, sameOutput⟩ := bind_ok.mp fed
      cases sameOutput
      cases rest
      exact ⟨sent, filling, bytes, few⟩
  | getOutput =>
      obtain ⟨⟨m', out⟩, taken, rest⟩ := bind_ok.mp stepped
      obtain ⟨more, filling', packet, fewNew⟩ :=
        MixCoder.getOutput_sends fits filling taken
      cases rest
      refine ⟨sent ++ more, filling', ?_, ?_⟩
      · rw [sentBytes] at bytes ⊢
        simp only [List.flatMap_append, bytes, List.flatMap_cons, packet,
          List.flatMap_nil, List.append_nil]
      · intro o member
        rcases List.mem_append.mp member with old | new
        · obtain ⟨earlier, among, bound⟩ := few o old
          exact ⟨earlier, List.mem_append_left _ among, bound⟩
        · exact ⟨out, List.mem_append_right _ (List.mem_singleton_self out),
            fewNew o new⟩

theorem delivers_of_run (fits : e.FitTags)
    {streamSource : Slot → StreamSource} {encoderState : σ}
    {calls : List MixCall}
    {session : Session V A
      ((σ × Except Abort FLVSegmentOutput) × List Packaged)}
    (reached : run (Session.step codecs e.backend.logged)
      (Session.start streamSource
        ((encoderState, .ok (FLVSegmentOutput.start acid)), [])) calls =
      .ok session) : ∃ sent, session.Delivers acid sent := by
  refine run_invariant (fun session => ∃ sent, session.Delivers acid sent)
    (fun _ _ _ delivers stepped => delivers_step fits delivers stepped)
    ?_ reached
  refine ⟨[], ⟨_, rfl, FLVSegmentOutput.ledger_start acid, ?_⟩, rfl,
    fun _ member => nomatch member⟩
  intro i busy
  exact absurd rfl busy

/-- The packaging calls of a run, as the same run with a log has them. -/
def Logged (codecs : Codecs V A) (e : Encoders σ)
    (streamSource : Slot → StreamSource) (encoderState : σ) (acid : UInt8)
    (calls : List MixCall) (log : List Packaged) : Prop :=
  ∃ logged : Session V A
      ((σ × Except Abort FLVSegmentOutput) × List Packaged),
    run (Session.step codecs e.backend.logged)
        (Session.start streamSource
          ((encoderState, .ok (FLVSegmentOutput.start acid)), [])) calls =
      .ok logged ∧ logged.mixCoder.output.2 = log

/-- What is known of a run's output and of its log. -/
theorem exists_ledger (fits : e.FitTags) {streamSource : Slot → StreamSource}
    {encoderState : σ} {calls : List MixCall}
    {session : Session V A (σ × Except Abort FLVSegmentOutput)}
    (reached : run (Session.step codecs e.backend)
      (startEncoders streamSource encoderState acid) calls = .ok session) :
    ∃ log, Logged codecs e streamSource encoderState acid calls log ∧
      ∃ sent : List FLVSegmentOutput, (∀ o ∈ sent, o.Fillable) ∧
        session.sentBytes = sent.flatMap FLVSegmentOutput.segment ∧
        (∀ i, (sent.map fun o => o.pending i).filter
            (fun packet => packet ≠ []) =
          FLVOutput.tags acid (callsFor log i)) ∧
        (∀ packaged ∈ log, packaged.2.Fits) ∧
        ∀ o ∈ sent, ∃ out ∈ session.outputs,
          o.busySlots.length ≤ out.totalMobileStreams := by
  obtain ⟨logged, reachedToo, same⟩ := exists_logged reached
  obtain ⟨sent, ⟨w, _, ledger, free⟩, bytes, few⟩ :=
    delivers_of_run fits reachedToo
  have sameOutputs : logged.outputs = session.outputs := by
    rw [← same]
    rfl
  refine ⟨_, ⟨logged, reachedToo, rfl⟩, sent, ledger.fillable, ?_, ?_,
    ledger.fits, ?_⟩
  · rw [← bytes, sentBytes, sentBytes, sameOutputs]
  · intro i
    have idle : w.pending i = [] := by
      by_contra busy
      exact absurd (free i busy) List.not_mem_nil
    rw [← ledger.packets i, List.map_append, List.filter_append]
    simp [idle]
  · intro o member
    rw [← sameOutputs]
    exact few o member

end Session

open Session in
/-- In every run, however the output is cut into reads, the tool writes for
each stream a file with exactly the packets that were packaged for it, in
order. -/
theorem outputFiles_exact (codecs : Codecs V A) {e : Encoders σ}
    (fits : e.FitTags) (streamSource : Slot → StreamSource) (encoderState : σ)
    (acid : UInt8) (calls : List MixCall)
    {session : Session V A (σ × Except Abort FLVSegmentOutput)}
    (reached : run (Session.step codecs e.backend)
      (startEncoders streamSource encoderState acid) calls = .ok session)
    (few : ∀ out ∈ session.outputs, out.totalMobileStreams ≤ 30) :
    ∃ log, Logged codecs e streamSource encoderState acid calls log ∧
      ∀ chunks : List Bytes, chunks.flatten = session.sentBytes →
        SegOutputParser.splitStreams chunks =
          .ok fun i => FLVOutput.file acid (callsFor log i) := by
  obtain ⟨log, isLog, sent, fillable, bytes, packets, _, mobile⟩ :=
    exists_ledger fits reached
  refine ⟨log, isLog, ?_⟩
  intro chunks cut
  have fewStreams : ∀ o ∈ sent, o.FewStreams := by
    intro o member
    obtain ⟨out, among, bound⟩ := mobile o member
    exact le_trans bound (few out among)
  rw [SegOutputParser.splitStreams_eq, cut, bytes,
    FLVSegmentOutput.parseSettled_fillable sent {} _ fillable rfl,
    if_pos fewStreams]
  congr 1
  funext i
  rw [List.nil_append, ← FLVOutput.flatten_tags, ← packets i,
    List.flatten_filter_ne_nil, List.flatMap_def]

/-- An encoder whose packets are the numbers of the mixers. -/
def numberEncoder : Encoders Unit where
  mixVideo _ _ := ((), [], fun _ => ⟨0, 0, 0, 0⟩)
  encodeVideo _ _ := ((), none, false)
  mixAudio _ _ := ((), [])
  encodeAudio _ mixer _ := ((), some [UInt8.ofNat mixer])

theorem numberEncoder_fits : numberEncoder.FitTags where
  packets := by
    constructor
    · intro s raw packet nothing
      cases nothing
    · intro s mixer raw packet encoded
      cases encoded
      exact (by decide : 1 < 16777216 - 9)
  rects _ _ _ := (by decide : (⟨0, 0, 0, 0⟩ : VideoRect).Fits)

theorem maskCount_one_lt : maskCount 1 < MAX_XCODING_INSTANCES := by
  rw [maskCount_one]
  decide

/-- A sound of a mobile stream in slot 0. -/
def mobileSegment : Segment where
  mask := 1
  records := [⟨Slot.ofNat 0, ⟨2, by decide⟩, flvTagBytes 8 0 [0x2f, 7],
    by simp [flvTagBytes]⟩]
  counted := by rw [maskCount_one]; rfl
  slotFree := maskCount_one_lt

def mobileCalls : List MixCall :=
  [.newInput ⟨mobileSegment.bytes, by decide +kernel⟩, .getOutput, .getOutput]

def mobileLog : List Packaged :=
  [(Fin.castSucc (Slot.ofNat 0), .packageAudioFrame [0] 0),
    (FLVSegmentOutput.allIn, .packageAudioFrame [32] 0)]

namespace Session

theorem mobile_run :
    ∃ session : Session Unit Unit (Unit × Except Abort FLVSegmentOutput),
      run (Session.step Codecs.echo numberEncoder.backend)
          (startEncoders (fun _ => .kDesktopStreamSource) () kMP3)
          mobileCalls = .ok session ∧
        ∀ out ∈ session.outputs, out.totalMobileStreams ≤ 30 := by
  have ran : (run (Session.step Codecs.echo numberEncoder.backend)
      (startEncoders (fun _ => .kDesktopStreamSource) () kMP3 :
        Session Unit Unit (Unit × Except Abort FLVSegmentOutput))
      mobileCalls).map (fun session =>
        session.outputs.map fun out => out.totalMobileStreams) =
      .ok [1, 0] := by
    decide +kernel
  obtain ⟨session, reached, counts⟩ := map_ok.mp ran
  refine ⟨session, reached, ?_⟩
  intro out member
  have among : out.totalMobileStreams ∈ [1, 0] := by
    rw [← counts]
    exact List.mem_map.mpr ⟨out, member, rfl⟩
  have bound : ∀ n ∈ [1, 0], n ≤ 30 := by decide
  exact bound _ among

theorem mobile_logged {log : List Packaged}
    (isLog : Logged (Codecs.echo : Codecs Unit Unit) numberEncoder
      (fun _ => .kDesktopStreamSource) () kMP3 mobileCalls log) :
    log = mobileLog := by
  obtain ⟨logged, reached, same⟩ := isLog
  have ran : (run (Session.step Codecs.echo numberEncoder.backend.logged)
      (Session.start (fun _ => .kDesktopStreamSource)
        (((), .ok (FLVSegmentOutput.start kMP3)), []) :
        Session Unit Unit
          ((Unit × Except Abort FLVSegmentOutput) × List Packaged))
      mobileCalls).map (fun logged => logged.mixCoder.output.2) =
      .ok mobileLog := by
    decide +kernel
  rw [reached] at ran
  rw [← same]
  exact Except.ok.inj ran

end Session

open Session in
theorem outputFiles_exact_mobileSound :
    ∃ session : Session Unit Unit (Unit × Except Abort FLVSegmentOutput),
      run (Session.step Codecs.echo numberEncoder.backend)
          (startEncoders (fun _ => .kDesktopStreamSource) () kMP3)
          mobileCalls = .ok session ∧
        ∀ chunks : List Bytes, chunks.flatten = session.sentBytes →
          SegOutputParser.splitStreams chunks =
            .ok fun i => FLVOutput.file kMP3 (callsFor mobileLog i) := by
  obtain ⟨session, reached, few⟩ := mobile_run
  obtain ⟨log, isLog, files⟩ := outputFiles_exact Codecs.echo
    numberEncoder_fits _ () kMP3 mobileCalls reached few
  rw [mobile_logged isLog] at files
  exact ⟨session, reached, files⟩

/-! ## The messages -/

def ParsedFrame.isFor (i : OutputSlot) (f : ParsedFrame) : Bool :=
  f.mixerId = (i.val : Int)

namespace GroupMixer

/-- The buffer of a frame may hold older bytes behind it. -/
def onFrameParsed (entries : List GroupMappingTableEntry)
    (stale : ParsedFrame → Bytes) (f : ParsedFrame) :
    List FrameCall × Except ArrayFailure Nat :=
  onFrameGenerated (IdLookup.lookupStreamId entries f.mixerId)
    (f.frame ++ stale f) f.len.toNat false

/-- What is to arrive for the packets of a stream. -/
def messages (streamId : Int) (acid : UInt8) (calls : List PackageCall) :
    List FrameCall :=
  if calls = [] then []
  else metadataMessage streamId :: calls.map (packagedMessage streamId acid)

/-- The frame of a packet. -/
def frameOf (i : OutputSlot) (packet : Bytes) : ParsedFrame :=
  ⟨i.val, packet, packet.length⟩

variable {entries : List GroupMappingTableEntry}
  {stale : ParsedFrame → Bytes} {acid : UInt8} {i : OutputSlot} {streamId : Int}

theorem onFrameParsed_frameOf
    (found : IdLookup.lookupStreamId entries i.val = streamId)
    (packet : Bytes) :
    onFrameParsed entries stale (frameOf i packet) =
      onFrameGenerated streamId (packet ++ stale (frameOf i packet))
        packet.length false := by
  rw [onFrameParsed, ← found]
  rfl

theorem onFrameParsed_tags (mapped : streamId ≠ -1)
    (found : IdLookup.lookupStreamId entries i.val = streamId)
    {calls : List PackageCall} (fits : ∀ call ∈ calls, call.Fits) :
    ((FLVOutput.tags acid calls).map (frameOf i)).flatMap
        (fun f => (onFrameParsed entries stale f).1) =
      messages streamId acid calls := by
  cases calls with
  | nil => rfl
  | cons call rest =>
      rw [FLVOutput.tags_cons, List.map_cons, List.flatMap_cons,
        onFrameParsed_frameOf found,
        onFrameGenerated_first mapped acid (fits call List.mem_cons_self),
        messages, if_neg (by simp)]
      have others : ∀ calls : List PackageCall, (∀ call ∈ calls, call.Fits) →
          ((calls.map (PackageCall.tag acid)).map (frameOf i)).flatMap
              (fun f => (onFrameParsed entries stale f).1) =
            calls.map (packagedMessage streamId acid) := by
        intro calls
        induction calls with
        | nil =>
            intro _
            rfl
        | cons call rest inductionHypothesis =>
            intro fits
            rw [List.map_cons, List.map_cons, List.flatMap_cons,
              onFrameParsed_frameOf found,
              onFrameGenerated_tag mapped acid (fits call List.mem_cons_self),
              inductionHypothesis fun other member =>
                fits other (List.mem_cons_of_mem call member)]
            rfl
      rw [others rest fun other member =>
        fits other (List.mem_cons_of_mem call member)]
      rfl

theorem onFrameParsed_returns (mapped : streamId ≠ -1)
    (found : IdLookup.lookupStreamId entries i.val = streamId)
    {calls : List PackageCall} (fits : ∀ call ∈ calls, call.Fits)
    {packet : Bytes} (member : packet ∈ FLVOutput.tags acid calls) :
    (onFrameParsed entries stale (frameOf i packet)).2 = .ok packet.length := by
  rw [onFrameParsed_frameOf found]
  cases calls with
  | nil => cases member
  | cons call rest =>
      rw [FLVOutput.tags_cons] at member
      rcases List.mem_cons.mp member with rfl | later
      · rw [onFrameGenerated_first mapped acid (fits call List.mem_cons_self)]
      · obtain ⟨other, among, rfl⟩ := List.mem_map.mp later
        rw [onFrameGenerated_tag mapped acid
          (fits other (List.mem_cons_of_mem call among))]

end GroupMixer

namespace FLVSegmentOutput

open SegOutputParser

theorem filter_frames (o : FLVSegmentOutput) (i : OutputSlot) :
    o.frames.filter (ParsedFrame.isFor i) =
      SegmentParser.framesOf i (o.pending i) := by
  have each : ∀ j : OutputSlot,
      (SegmentParser.framesOf j (o.pending j)).filter (ParsedFrame.isFor i) =
        dataFor i j (SegmentParser.framesOf j (o.pending j)) := by
    intro j
    have sameId : ((j.val : Int) = (i.val : Int)) ↔ j = i := by
      rw [Int.natCast_inj, Fin.val_inj]
    rw [dataFor, SegmentParser.framesOf]
    by_cases empty : o.pending j = []
    · simp [empty]
    · rw [if_neg empty, List.filter_singleton]
      simp only [ParsedFrame.isFor, sameId, Bool.cond_decide]
  rw [frames, List.filter_flatMap]
  simp only [each]
  rw [slots, flatMap_dataFor _ i (List.nodup_finRange _),
    if_pos (List.mem_finRange i)]

/-- The frames of a stream are its packets. -/
theorem filter_flatMap_frames (sent : List FLVSegmentOutput)
    (i : OutputSlot) :
    (sent.flatMap frames).filter (ParsedFrame.isFor i) =
      ((sent.map fun o => o.pending i).filter
        fun packet => packet ≠ []).map (GroupMixer.frameOf i) := by
  induction sent with
  | nil => rfl
  | cons o rest inductionHypothesis =>
      rw [List.flatMap_cons, List.filter_append, o.filter_frames i,
        inductionHypothesis, SegmentParser.framesOf, List.map_cons]
      by_cases empty : o.pending i = []
      · rw [if_pos empty, List.filter_cons_of_neg (by simpa using empty)]
        rfl
      · rw [if_neg empty, List.filter_cons_of_pos (by simpa using empty)]
        rfl

end FLVSegmentOutput

/-- Packets that leave room for the header and the tag around them. -/
def Payloads (log : List Packaged) : Prop :=
  ∀ packaged ∈ log, packaged.2.payload.length ≤ 2 ^ 20 - 343

instance (log : List Packaged) : Decidable (Payloads log) :=
  inferInstanceAs (Decidable (∀ packaged ∈ log, _))

namespace PackageCall

theorem length_tag_le (acid : UInt8) (call : PackageCall) :
    (call.tag acid).length ≤ 24 + call.payload.length := by
  rw [tag, length_wireTag]
  cases call with
  | packageVideoFrame videoPacket ts bIsKeyFrame videoRect =>
      simp only [body, payload, rectangleBytes, List.length_append,
        Library.WireBytes.length_toBE, List.length_cons, List.length_nil]
      omega
  | packageAudioFrame audioPacket ts =>
      simp only [body, payload, List.length_append, List.length_cons,
        List.length_nil]
      omega

end PackageCall

namespace FLVOutput

theorem length_of_mem_tags {acid : UInt8} {calls : List PackageCall}
    {bound : Nat} (small : ∀ call ∈ calls, call.payload.length ≤ bound)
    {packet : Bytes} (member : packet ∈ tags acid calls) :
    packet.length ≤ 343 + bound := by
  cases calls with
  | nil => cases member
  | cons call rest =>
      rw [tags_cons] at member
      rcases List.mem_cons.mp member with rfl | later
      · have length := call.length_tag_le acid
        have payload := small call List.mem_cons_self
        rw [List.length_append, length_flvHeader]
        omega
      · obtain ⟨other, among, rfl⟩ := List.mem_map.mp later
        have length := other.length_tag_le acid
        have payload := small other (List.mem_cons_of_mem call among)
        omega

end FLVOutput

end GroupVoip
