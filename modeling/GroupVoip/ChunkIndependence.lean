import GroupVoip.SegmentGrammar

/-!
# The cuts of the input do not matter

Successive `readData` calls do what one byte after the other would do, so two
ways of cutting the same bytes end in the same state, make the same calls on
the way and fail alike.
-/

namespace GroupVoip

open Library.Framing Library.Runs

namespace InputSide

variable {μ : Type} (act : μ → StreamCall → Except Abort μ)

/-- The reader on the bytes of a stream, one by one. -/
def readBytes (p : InputSide μ) (bytes : Bytes) : Except Abort (InputSide μ) :=
  ((segmentReader.framer (segmentAct act)).feed (p.config act) bytes).map
    (ofConfig act)

theorem readBytes_append (p : InputSide μ) (first second : Bytes) :
    p.readBytes act (first ++ second) =
      (p.readBytes act first).bind fun middle => middle.readBytes act second := by
  rw [readBytes, readBytes, Framer.feed_append]
  cases (segmentReader.framer (segmentAct act)).feed (p.config act) first <;> rfl

theorem readData_eq_readBytes (p : InputSide μ) (input : SmartBuffer) :
    p.readData act input = p.readBytes act input.data := by
  rw [readData, readBytes, Framer.read_eq_feed]

/-- Buffer by buffer is byte by byte. -/
theorem readAll_eq_readBytes (inputs : List SmartBuffer) :
    ∀ p : InputSide μ,
      p.readAll act inputs = p.readBytes act (SmartBuffer.stream inputs) := by
  induction inputs with
  | nil =>
      intro p
      rfl
  | cons input rest inductionHypothesis =>
      intro p
      have stream :
          SmartBuffer.stream (input :: rest) =
            input.data ++ SmartBuffer.stream rest := rfl
      rw [readAll, run_cons, stream, readBytes_append, readData_eq_readBytes]
      cases p.readBytes act input.data with
      | error stopped => rfl
      | ok next => exact inductionHypothesis next

end InputSide

variable {V A : Type}

/-- The streams together with the `onFLVFrameParsed` calls so far. -/
structure Traced (V A : Type) where
  streams : Streams V A
  frames : List (Slot × AccessUnit) := []

/-- The `onFLVFrameParsed` call that an effect of the readers leads to. -/
def Streams.parsedFrames (p : Streams V A) :
    StreamCall → Except Abort (List (Slot × AccessUnit))
  | .flvTag id tag => do
      let (_, message) ←
        parseNextFLVFrame (p.stream id).clock p.globalAudioTimestamp tag
      return (message.map fun au => (id, au)).toList
  | _ => .ok []

/-- Carry out one effect of the readers and note the `onFLVFrameParsed` call
in it. -/
def Traced.act (codecs : Codecs V A) (traced : Traced V A) (call : StreamCall) :
    Except Abort (Traced V A) := do
  let frames ← traced.streams.parsedFrames call
  let streams ← traced.streams.act codecs call
  return { streams := streams, frames := traced.frames ++ frames }

/-- Keeping the trace changes nothing else. -/
theorem Traced.act_streams (codecs : Codecs V A) (traced : Traced V A)
    (call : StreamCall) :
    (traced.act codecs call).map (fun next => next.streams) =
      traced.streams.act codecs call := by
  cases noted : traced.streams.parsedFrames call with
  | ok frames =>
      rw [Traced.act, noted]
      simp only [bind, Except.bind]
      cases traced.streams.act codecs call <;> rfl
  | error stopped =>
      rcases call with streamMask | ⟨id, source⟩ | ⟨id, tag⟩
      · cases noted
      · cases noted
      · have failed :
            parseNextFLVFrame (traced.streams.stream id).clock
              traced.streams.globalAudioTimestamp tag = .error stopped := by
          rcases bind_error.mp noted with parse | ⟨parsed, _, finished⟩
          · exact parse
          · cases finished
        have sameFailure :
            traced.streams.act codecs (.flvTag id tag) = .error stopped := by
          rw [Streams.act, Streams.onTag, Stream.onTag, failed]
          rfl
        rw [Traced.act, noted, sameFailure]
        rfl

/-- However the same bytes are cut, the parser ends in the same state after
the same `onFLVFrameParsed` calls, or stops for the same reason. -/
theorem readAll_cut_independent (codecs : Codecs V A)
    (p : InputSide (Traced V A)) (first second : List SmartBuffer)
    (sameBytes : SmartBuffer.stream first = SmartBuffer.stream second) :
    p.readAll (Traced.act codecs) first =
      p.readAll (Traced.act codecs) second := by
  rw [InputSide.readAll_eq_readBytes, InputSide.readAll_eq_readBytes, sameBytes]

theorem readAll_cut_independent_audio :
    (InputSide.start { streams := Streams.start fun _ => .kTotalStreamSource } :
        InputSide (Traced Unit Unit)).readAll (Traced.act Codecs.echo)
      [⟨[83, 71, 73, 0, 1, 0, 0, 0, 1, 0, 17, 0, 0, 0,
          8, 0, 0, 2, 0, 0, 50, 0, 0, 0, 0, 47, 7, 0, 0, 0, 0], by decide⟩] =
    (InputSide.start { streams := Streams.start fun _ => .kTotalStreamSource } :
        InputSide (Traced Unit Unit)).readAll (Traced.act Codecs.echo)
      [⟨[83, 71, 73, 0, 1, 0, 0, 0, 1], by decide⟩,
        ⟨[0, 17, 0, 0, 0, 8, 0, 0, 2, 0, 0], by decide⟩,
        ⟨[50, 0, 0, 0, 0, 47, 7, 0, 0, 0, 0], by decide⟩] :=
  readAll_cut_independent Codecs.echo _ _ _ (by decide)

end GroupVoip
