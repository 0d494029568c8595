import GroupVoip.Instants
import GroupVoip.Library.Checked
import GroupVoip.VideoMixer

/-!
# The contexts of the video mixer

A context is kept from call to call as long as the size that it scales to does
not change, so a context that a slot has is made for the size in use.  The
scaling loop then finds a context for every valid stream, and as many streams
as the caller has counted.
-/

namespace GroupVoip

open Library.Buffers Library.Checked Library.Loops Library.Runs

variable {γ : Type}

namespace VideoMixer

/-! ## releaseSws -/

theorem release_frames (l : Swscale γ) :
    Frames (fun i m m' => m' = releaseTurn l m i) swsCtx := by
  intro i m m' turned j other
  rw [turned, releaseTurn]
  split
  · exact Function.update_of_ne other _ _
  · rfl

theorem releaseSws_swsCtx (l : Swscale γ) (m : VideoMixer γ) (i : Slot) :
    (m.releaseSws l).swsCtx i = none := by
  have looped := turns_foldl (releaseTurn l) Streams.slots m
  refine looped.entry (fun _ _ after => after = none) (release_frames l) ?_
    Streams.slots_nodup i (Streams.mem_slots i)
  intro i m m' turned
  rw [turned, releaseTurn]
  split
  · exact Function.update_self _ _ _
  · assumption

/-- The setting of the output never changes. -/
def SameOutput (m m' : VideoMixer γ) : Prop :=
  m'.outputWidth = m.outputWidth ∧ m'.outputHeight = m.outputHeight

theorem SameOutput.trans {m m' m'' : VideoMixer γ}
    (first : SameOutput m m') (second : SameOutput m' m'') :
    SameOutput m m'' :=
  ⟨second.1.trans first.1, second.2.trans first.2⟩

theorem releaseSws_sameOutput (l : Swscale γ) (m : VideoMixer γ) :
    SameOutput m (m.releaseSws l) := by
  unfold releaseSws
  generalize Streams.slots = slots
  induction slots generalizing m with
  | nil => exact ⟨rfl, rfl⟩
  | cons i rest inductionHypothesis =>
      refine SameOutput.trans ?_ (inductionHypothesis (releaseTurn l m i))
      rw [releaseTurn]
      split
      · exact ⟨rfl, rfl⟩
      · exact ⟨rfl, rfl⟩

/-! ## tryToInitSws -/

section Init

variable {l : Swscale γ} {rawData : Slot → Option VideoRawData}
  {outputWidth outputHeight : Nat} {m m' : VideoMixer γ} {i : Slot}

/-- The context of a slot after its turn. -/
def initContext (outputWidth outputHeight : Nat)
    (cached : Option VideoRawData) (before : Option SwsContext) :
    Option SwsContext :=
  match cached with
  | none => before
  | some v =>
      if v.rawVideoSettings.bIsValid then
        some (before.getD
          { srcWidth := v.rawVideoSettings.width
            srcHeight := v.rawVideoSettings.height
            dstWidth := outputWidth, dstHeight := outputHeight })
      else before

theorem initTurn_ok
    (turned : initTurn l rawData outputWidth outputHeight m i = .ok m') :
    SameOutput m m' ∧ m'.swsCtx = Function.update m.swsCtx i
      (initContext outputWidth outputHeight (rawData i) (m.swsCtx i)) := by
  unfold initTurn at turned
  unfold initContext
  cases cached : rawData i with
  | none =>
      rw [cached] at turned
      cases turned
      exact ⟨⟨rfl, rfl⟩, (Function.update_eq_self _ _).symm⟩
  | some v =>
      rw [cached] at turned
      dsimp only at turned ⊢
      cases valid : v.rawVideoSettings.bIsValid with
      | false =>
          rw [valid] at turned
          cases turned
          exact ⟨⟨rfl, rfl⟩, (Function.update_eq_self _ _).symm⟩
      | true =>
          rw [valid] at turned
          cases context : m.swsCtx i with
          | some ctx =>
              rw [context] at turned
              cases turned
              refine ⟨⟨rfl, rfl⟩, ?_⟩
              rw [if_pos rfl, Option.getD_some, ← context]
              exact (Function.update_eq_self _ _).symm
          | none =>
              rw [context] at turned
              obtain ⟨_, _, rest⟩ := bind_ok.mp turned
              cases rest
              exact ⟨⟨rfl, rfl⟩, rfl⟩

/-- A turn stops only when the library makes no context. -/
theorem initTurn_stops {Reason : Abort → Prop}
    (notMade : (∃ library ctx, (l.getCachedContext library ctx).2 = false) →
      Reason (.assertion .swsContextMade)) (m : VideoMixer γ) (i : Slot) :
    StopsFor Reason (initTurn l rawData outputWidth outputHeight m i) := by
  unfold initTurn
  split
  · exact StopsFor.returns _
  · dsimp only
    split
    · refine StopsFor.bind ?_ fun _ _ => StopsFor.returns _
      intro stopped failed
      obtain ⟨missing, same⟩ := assertThat_error.mp failed
      rw [same]
      exact notMade ⟨_, _, missing⟩
    · exact StopsFor.returns _

theorem init_frames : Frames (fun i m m' =>
    initTurn l rawData outputWidth outputHeight m i = .ok m') swsCtx := by
  intro i m m' turned j other
  rw [(initTurn_ok turned).2]
  exact Function.update_of_ne other _ _

end Init

/-- The contexts that `tryToInitSws` keeps. -/
def keptContext (m : VideoMixer γ) (totalStreams : Nat) (i : Slot) :
    Option SwsContext :=
  if mappingToScalingWidth m.totalStreams ≠
      mappingToScalingWidth totalStreams then none
  else m.swsCtx i

theorem tryToInitSws_ok {l : Swscale γ} {m m' : VideoMixer γ}
    {rawData : Slot → Option VideoRawData} {totalStreams : Nat}
    (ready : m.tryToInitSws l rawData totalStreams = .ok m') :
    SameOutput m m' ∧ m'.totalStreams = totalStreams ∧
      ∀ i, m'.swsCtx i = initContext (mappingToScalingWidth totalStreams)
        (mappingToScalingHeight totalStreams) (rawData i)
        (m.keptContext totalStreams i) := by
  obtain ⟨made, looped, rest⟩ := bind_ok.mp ready
  cases rest
  generalize isKept : (if mappingToScalingWidth m.totalStreams ≠
    mappingToScalingWidth totalStreams then m.releaseSws l else m) = kept
    at looped
  have sameKept : SameOutput m kept := by
    rw [← isKept]
    split
    · exact releaseSws_sameOutput l m
    · exact ⟨rfl, rfl⟩
  have contexts : ∀ i, kept.swsCtx i = m.keptContext totalStreams i := by
    intro i
    rw [← isKept, keptContext]
    split
    · exact releaseSws_swsCtx l m i
    · rfl
  have sameMade : SameOutput kept made := by
    refine run_invariant (SameOutput kept) ?_ ⟨rfl, rfl⟩ looped
    intro s i t same turned
    exact same.trans (initTurn_ok turned).1
  refine ⟨sameKept.trans sameMade, rfl, ?_⟩
  intro i
  rw [← contexts i]
  refine (turns_run looped).entry
    (fun i before after => after = initContext
      (mappingToScalingWidth totalStreams)
      (mappingToScalingHeight totalStreams) (rawData i) before)
    init_frames ?_ Streams.slots_nodup i (Streams.mem_slots i)
  intro i s t turned
  rw [(initTurn_ok turned).2]
  exact Function.update_self _ _ _

theorem tryToInitSws_stops {l : Swscale γ} {Reason : Abort → Prop}
    (notMade : (∃ library ctx, (l.getCachedContext library ctx).2 = false) →
      Reason (.assertion .swsContextMade)) (m : VideoMixer γ)
    (rawData : Slot → Option VideoRawData) (totalStreams : Nat) :
    StopsFor Reason (m.tryToInitSws l rawData totalStreams) :=
  StopsFor.bind (StopsFor.run (initTurn_stops notMade) _ _)
    fun _ _ => StopsFor.returns _

/-- A library that makes every context it is asked for is never in the way. -/
theorem exists_tryToInitSws {l : Swscale γ}
    (made : ∀ library ctx, (l.getCachedContext library ctx).2 = true)
    (m : VideoMixer γ) (rawData : Slot → Option VideoRawData)
    (totalStreams : Nat) :
    ∃ m', m.tryToInitSws l rawData totalStreams = .ok m' := by
  have never : StopsFor (fun _ => False)
      (m.tryToInitSws l rawData totalStreams) := by
    apply tryToInitSws_stops
    intro missing
    obtain ⟨library, ctx, notMade⟩ := missing
    rw [made] at notMade
    cases notMade
  cases ready : m.tryToInitSws l rawData totalStreams with
  | ok m' => exact ⟨m', rfl⟩
  | error stopped => exact (never stopped ready).elim

/-- Every valid slot has a context then. -/
theorem isSome_tryToInitSws {l : Swscale γ} {m m' : VideoMixer γ}
    {rawData : Slot → Option VideoRawData} {totalStreams : Nat}
    (ready : m.tryToInitSws l rawData totalStreams = .ok m') {i : Slot}
    (valid : videoValid (rawData i) = true) :
    (m'.swsCtx i).isSome = true := by
  obtain ⟨v, cached, isValid⟩ := videoValid_iff.mp valid
  rw [(tryToInitSws_ok ready).2.2 i, cached, initContext, if_pos isValid]
  rfl

/-! ## The scaling loop -/

section Scaling

variable {l : Swscale γ} {swsCtx : Slot → Option SwsContext}
  {rawData : Slot → Option VideoRawData} {totalStreams : Nat}

/-- The library has filled the planes of a slot, from its picture and with its
context. -/
def Scaled (l : Swscale γ) (swsCtx : Slot → Option SwsContext)
    (rawData : Slot → Option VideoRawData) (totalStreams : Nat) (i : Slot)
    (planes : Option (Planes Bytes)) : Prop :=
  ∃ v ctx pointers library, rawData i = some v ∧ swsCtx i = some ctx ∧
    inputPlanes v = some pointers ∧
    planes = some (scaledPlanes (mappingToScalingWidth totalStreams)
      (mappingToScalingHeight totalStreams)
      (l.scale library ctx pointers v.rawVideoStrides
        v.rawVideoSettings.height).2)

/-- A valid slot shows an entry that has no planes. -/
def ShowsNoPlanes (rawData : Slot → Option VideoRawData) : Prop :=
  ∃ i v, rawData i = some v ∧ v.rawVideoSettings.bIsValid = true ∧
    inputPlanes v = none

theorem scaleTurn_skips {i : Slot}
    (invalid : ¬ videoValid (rawData i) = true) (s : ScaleLoop γ) :
    scaleTurn l swsCtx rawData totalStreams s i = .ok s := by
  unfold scaleTurn
  cases cached : rawData i with
  | none => rfl
  | some v =>
      rw [cached] at invalid
      exact if_neg invalid

/-- A turn skips a slot, scales its picture, or finds no planes there. -/
theorem scaleTurn_cases {s : ScaleLoop γ} {i : Slot}
    (context : videoValid (rawData i) = true → (swsCtx i).isSome = true)
    (room : s.validStreamId.length < totalStreams) :
    (videoValid (rawData i) = false ∧
        scaleTurn l swsCtx rawData totalStreams s i = .ok s) ∨
      (videoValid (rawData i) = true ∧ ∃ library planes,
        Scaled l swsCtx rawData totalStreams i (some planes) ∧
        scaleTurn l swsCtx rawData totalStreams s i = .ok {
          library := library
          scaledVideoPlanes :=
            Function.update s.scaledVideoPlanes i (some planes)
          validStreamId := s.validStreamId ++ [i] }) ∨
      (ShowsNoPlanes rawData ∧
        scaleTurn l swsCtx rawData totalStreams s i =
          .error .undefinedBehaviour) := by
  by_cases valid : videoValid (rawData i) = true
  · right
    obtain ⟨ctx, isContext⟩ := Option.isSome_iff_exists.mp (context valid)
    obtain ⟨v, cached, isValid⟩ := videoValid_iff.mp valid
    rw [scaleTurn, cached]
    dsimp only
    rw [if_pos isValid, isContext]
    cases planes : inputPlanes v with
    | none => exact Or.inr ⟨⟨i, v, cached, isValid, planes⟩, rfl⟩
    | some pointers =>
        left
        rw [← cached]
        refine ⟨valid, (l.scale s.library ctx pointers v.rawVideoStrides
          v.rawVideoSettings.height).1, _,
          ⟨v, ctx, pointers, s.library, cached, isContext, planes, rfl⟩, ?_⟩
        have counted : s.validStreamId.length + 1 ≤ totalStreams := room
        simp [inBounds, room, counted, assertThat, bind, Except.bind,
          pure, Except.pure]
  · exact Or.inl ⟨Bool.eq_false_iff.mpr valid, scaleTurn_skips valid s⟩

/-- The loop over some of the slots appends the valid ones, or meets one
without planes. -/
theorem scaleLoop_cases (indexes : List Slot) :
    ∀ s : ScaleLoop γ,
      (∀ i, videoValid (rawData i) = true → (swsCtx i).isSome = true) →
      s.validStreamId.length +
        indexes.countP (fun i => videoValid (rawData i)) ≤ totalStreams →
      (∃ s', run (scaleTurn l swsCtx rawData totalStreams) s indexes =
          .ok s' ∧
        s'.validStreamId = s.validStreamId ++
          indexes.filter (fun i => videoValid (rawData i)) ∧
        ∀ i, Scaled l swsCtx rawData totalStreams i
              (s.scaledVideoPlanes i) ∨
            (i ∈ indexes ∧ videoValid (rawData i) = true) →
          Scaled l swsCtx rawData totalStreams i (s'.scaledVideoPlanes i)) ∨
      (ShowsNoPlanes rawData ∧
        run (scaleTurn l swsCtx rawData totalStreams) s indexes =
          .error .undefinedBehaviour) := by
  induction indexes with
  | nil =>
      intro s _ _
      refine Or.inl ⟨s, rfl, (List.append_nil _).symm, ?_⟩
      intro i before
      rcases before with scaled | ⟨member, _⟩
      · exact scaled
      · cases member
  | cons i rest inductionHypothesis =>
      intro s contexts room
      by_cases valid : videoValid (rawData i) = true
      · rw [List.countP_cons_of_pos (by exact valid)] at room
        have roomHere : s.validStreamId.length < totalStreams := by omega
        rcases scaleTurn_cases (l := l) (contexts i) roomHere with
          ⟨invalid, _⟩ | ⟨_, library, planes, filled, turned⟩ |
          ⟨noPlanes, stopped⟩
        · rw [valid] at invalid
          cases invalid
        · have later := inductionHypothesis
            { library := library
              scaledVideoPlanes :=
                Function.update s.scaledVideoPlanes i (some planes)
              validStreamId := s.validStreamId ++ [i] } contexts
            (by simp only [List.length_append, List.length_singleton]; omega)
          rcases later with ⟨s', looped, ids, scaled⟩ | ⟨noPlanes, stopped⟩
          · refine Or.inl ⟨s', run_cons_ok.mpr ⟨_, turned, looped⟩, ?_, ?_⟩
            · rw [ids, List.filter_cons_of_pos (by exact valid),
                List.append_assoc, List.singleton_append]
            · intro j before
              apply scaled j
              by_cases same : j = i
              · left
                rw [same]
                simp only [Function.update_self]
                exact filled
              · simp only [Function.update_of_ne same]
                rcases before with already | ⟨member, validToo⟩
                · exact Or.inl already
                · rcases List.mem_cons.mp member with here | there
                  · exact absurd here same
                  · exact Or.inr ⟨there, validToo⟩
          · refine Or.inr ⟨noPlanes, ?_⟩
            rw [run_cons, turned]
            exact stopped
        · refine Or.inr ⟨noPlanes, ?_⟩
          rw [run_cons, stopped]
          rfl
      · have skipped : scaleTurn l swsCtx rawData totalStreams s i = .ok s :=
          scaleTurn_skips valid s
        rw [List.countP_cons_of_neg (by exact valid)] at room
        rcases inductionHypothesis s contexts room with
          ⟨s', looped, ids, scaled⟩ | ⟨noPlanes, stopped⟩
        · refine Or.inl ⟨s', run_cons_ok.mpr ⟨_, skipped, looped⟩, ?_, ?_⟩
          · rw [ids, List.filter_cons_of_neg (by exact valid)]
          · intro j before
            apply scaled j
            rcases before with already | ⟨member, validToo⟩
            · exact Or.inl already
            · rcases List.mem_cons.mp member with here | there
              · rw [here] at validToo
                exact absurd validToo valid
              · exact Or.inr ⟨there, validToo⟩
        · refine Or.inr ⟨noPlanes, ?_⟩
          rw [run_cons, skipped]
          exact stopped

/-- The whole loop, when there are as many valid slots as the caller says. -/
theorem scaleSlots_cases (library : γ)
    (contexts : ∀ i, videoValid (rawData i) = true →
      (swsCtx i).isSome = true)
    (counted : totalStreams =
      Streams.slots.countP fun i => videoValid (rawData i)) :
    (∃ s, run (scaleTurn l swsCtx rawData totalStreams)
          { library := library } Streams.slots = .ok s ∧
        s.validStreamId =
          Streams.slots.filter (fun i => videoValid (rawData i)) ∧
        s.validStreamId.length = totalStreams ∧
        ∀ i, videoValid (rawData i) = true →
          Scaled l swsCtx rawData totalStreams i
            (s.scaledVideoPlanes i)) ∨
      (ShowsNoPlanes rawData ∧
        run (scaleTurn l swsCtx rawData totalStreams)
          { library := library } Streams.slots =
          .error .undefinedBehaviour) := by
  have room : ([] : List Slot).length + Streams.slots.countP
      (fun i => videoValid (rawData i)) ≤ totalStreams := by
    rw [counted]
    exact (Nat.zero_add _).le
  rcases scaleLoop_cases (l := l) Streams.slots { library := library }
      contexts room with ⟨s, looped, ids, scaled⟩ | stopped
  · rw [List.nil_append] at ids
    refine Or.inl ⟨s, looped, ids, ?_, ?_⟩
    · rw [ids, ← List.countP_eq_length_filter, counted]
    · intro i valid
      exact scaled i (Or.inr ⟨Streams.mem_slots i, valid⟩)
  · exact Or.inr stopped

end Scaling

/-! ## Drawing -/

section Drawing

variable {size : Nat}

theorem inBounds_stops {τ : Type} (copied : Option τ) :
    StopsFor (· = .undefinedBehaviour) (inBounds copied) := by
  cases copied with
  | none => exact StopsFor.stops rfl
  | some copy => exact StopsFor.returns copy

theorem copyPlanes_stops (planes : Planes Bytes)
    (outputWidth scaledWidth scaledHeight offsetY offsetU offsetV : Nat)
    (out : Buffer UInt8 size) :
    StopsFor (· = .undefinedBehaviour) (copyPlanes planes outputWidth
      scaledWidth scaledHeight offsetY offsetU offsetV out) := by
  refine StopsFor.bind (inBounds_stops _) fun _ _ => ?_
  refine StopsFor.bind (inBounds_stops _) fun _ _ => ?_
  refine StopsFor.bind (inBounds_stops _) fun _ _ => ?_
  exact StopsFor.returns _

theorem drawTurn_stops (layout : Layout)
    (outputWidth outputHeight scaledWidth scaledHeight : Nat)
    (scaled : Slot → Option (Planes Bytes)) (validStreamId : List Slot)
    (d : Drawing size) (index : Nat) :
    StopsFor (· = .undefinedBehaviour) (drawTurn layout outputWidth
      outputHeight scaledWidth scaledHeight scaled validStreamId d index) := by
  refine StopsFor.bind (inBounds_stops _) fun _ _ => ?_
  refine StopsFor.bind (inBounds_stops _) fun _ _ => ?_
  refine StopsFor.bind (copyPlanes_stops _ _ _ _ _ _ _ _) fun _ _ => ?_
  split
  · exact StopsFor.returns _
  · exact StopsFor.returns _

theorem drawStreams_stops (layout : Layout)
    (outputWidth outputHeight scaledWidth scaledHeight : Nat)
    (scaled : Slot → Option (Planes Bytes)) (validStreamId : List Slot)
    (totalStreams : Nat) (d : Drawing size) :
    StopsFor (· = .undefinedBehaviour) (drawStreams layout outputWidth
      outputHeight scaledWidth scaledHeight scaled validStreamId totalStreams
      d) := by
  refine StopsFor.bind ?_ fun _ _ =>
    StopsFor.run (drawTurn_stops _ _ _ _ _ _ _) _ _
  exact StopsFor.bind (inBounds_stops _) fun _ _ => inBounds_stops _

theorem drawOne_stops (outputWidth outputHeight scaledWidth : Nat)
    (scaled : Slot → Option (Planes Bytes)) (validStreamId : List Slot)
    (d : Drawing size) :
    StopsFor (· = .undefinedBehaviour)
      (drawOne outputWidth outputHeight scaledWidth scaled validStreamId
        d) := by
  refine StopsFor.bind (inBounds_stops _) fun _ _ => ?_
  refine StopsFor.bind (inBounds_stops _) fun _ _ => ?_
  refine StopsFor.bind (inBounds_stops _) fun _ _ => ?_
  refine StopsFor.bind (inBounds_stops _) fun _ _ => ?_
  refine StopsFor.bind (inBounds_stops _) fun _ _ => ?_
  exact StopsFor.returns _

theorem draw_stops (outputWidth outputHeight : Nat)
    (scaled : Slot → Option (Planes Bytes)) (validStreamId : List Slot)
    (totalStreams : Nat) (d : Drawing size) :
    StopsFor (· = .undefinedBehaviour) (draw outputWidth outputHeight scaled
      validStreamId totalStreams d) := by
  unfold draw
  dsimp only
  split
  · exact drawOne_stops _ _ _ _ _ _
  · exact drawStreams_stops _ _ _ _ _ _ _ _ _
  · exact drawStreams_stops _ _ _ _ _ _ _ _ _
  · exact drawStreams_stops _ _ _ _ _ _ _ _ _
  · exact StopsFor.returns _

end Drawing

end VideoMixer

end GroupVoip
