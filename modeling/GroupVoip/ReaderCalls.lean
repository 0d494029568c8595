import GroupVoip.ChunkIndependence

/-!
# The effects of a run of the readers

The readers do not look at the streams, so the bytes alone fix the list of
effects.  A run of `readData` calls that succeeds is that list carried out in
order, and facts about one effect become facts about whole runs.
-/

namespace GroupVoip

open Library.Framing Library.Runs

structure Readers where
  scan : segmentReader.Scan
  parser : ParserBank

namespace Readers

/-- Readers that wait for a segment header and, in every slot, for a tag. -/
def start : Readers where
  scan := segmentReader.freshScan {}
  parser := fun _ => tagReader.freshScan {}

/-- The effects on the streams of one effect of the segment reader. -/
def recordCalls (parser : ParserBank) :
    SegmentCall → Except Abort (ParserBank × List StreamCall)
  | .streamMask streamMask => .ok (parser, [.streamMask streamMask])
  | .streamSource id source => .ok (parser, [.streamSource id source])
  | .readRecord id curStream =>
      (tagReader.scan (parser id) curStream).map fun (scan, tags) =>
        (Function.update parser id scan, tags.map fun tag => .flvTag id tag)

def bankCalls (parser : ParserBank) :
    List SegmentCall → Except Abort (ParserBank × List StreamCall)
  | [] => .ok (parser, [])
  | call :: rest => do
      let (parser, first) ← recordCalls parser call
      let (parser, others) ← bankCalls parser rest
      return (parser, first ++ others)

/-- The readers after some bytes, and the effects on the way. -/
def calls (readers : Readers) (bytes : Bytes) :
    Except Abort (Readers × List StreamCall) := do
  let (scan, segmentCalls) ← segmentReader.scan readers.scan bytes
  let (parser, streamCalls) ← bankCalls readers.parser segmentCalls
  return ({ scan := scan, parser := parser }, streamCalls)

end Readers

def InputSide.readers {μ : Type} (p : InputSide μ) : Readers where
  scan := p.scan
  parser := p.parser

section Following

variable {μ : Type} {act : μ → StreamCall → Except Abort μ}

theorem run_tagAct {id : Slot} (tags : List FLVTag) (owner : μ) :
    run (tagAct act id) owner tags =
      run act owner (tags.map fun tag => .flvTag id tag) := by
  induction tags generalizing owner with
  | nil => rfl
  | cons tag rest inductionHypothesis =>
      rw [run_cons, List.map_cons, run_cons, tagAct]
      cases act owner (.flvTag id tag) with
      | error stopped => rfl
      | ok next => exact inductionHypothesis next

theorem readRecord_ok {parser parser' : ParserBank} {owner owner' : μ}
    {id : Slot} {curStream : Bytes} :
    readRecord act parser owner id curStream = .ok (parser', owner') ↔
      ∃ calls,
        Readers.recordCalls parser (.readRecord id curStream) =
          .ok (parser', calls) ∧ run act owner calls = .ok owner' := by
  have follows := Emitter.follows_feed tagReader (tagAct act id) curStream
    (parser id) owner
  rw [readRecord, Framer.read_eq_feed, map_ok]
  constructor
  · intro read
    obtain ⟨c, fed, result⟩ := read
    cases result
    obtain ⟨tags, scanned, ran⟩ :=
      (follows (Emitter.scanOf c) c.state.2).mp fed
    refine ⟨tags.map fun tag => .flvTag id tag, ?_, ?_⟩
    · rw [Readers.recordCalls, scanned]
      rfl
    · rw [← run_tagAct]
      exact ran
  · intro read
    obtain ⟨calls, recorded, ran⟩ := read
    obtain ⟨⟨scan, tags⟩, scanned, result⟩ := map_ok.mp recorded
    cases result
    rw [← run_tagAct] at ran
    exact ⟨_, (follows scan owner').mpr ⟨tags, scanned, ran⟩, rfl⟩

theorem segmentAct_ok {parser parser' : ParserBank} {owner owner' : μ}
    {call : SegmentCall} :
    segmentAct act (parser, owner) call = .ok (parser', owner') ↔
      ∃ calls, Readers.recordCalls parser call = .ok (parser', calls) ∧
        run act owner calls = .ok owner' := by
  have single (streamCall : StreamCall) :
      (act owner streamCall).map (fun owner => (parser, owner)) =
          .ok (parser', owner') ↔
        ∃ calls, Except.ok (ε := Abort) (parser, [streamCall]) =
            .ok (parser', calls) ∧ run act owner calls = .ok owner' := by
    rw [map_ok]
    constructor
    · intro acted
      obtain ⟨next, carriedOut, same⟩ := acted
      cases same
      exact ⟨_, rfl, run_cons_ok.mpr ⟨_, carriedOut, rfl⟩⟩
    · intro acted
      obtain ⟨calls, same, ran⟩ := acted
      cases same
      obtain ⟨next, carriedOut, ended⟩ := run_cons_ok.mp ran
      cases ended
      exact ⟨_, carriedOut, rfl⟩
  cases call with
  | streamMask streamMask => exact single (.streamMask streamMask)
  | streamSource id source => exact single (.streamSource id source)
  | readRecord id curStream => exact readRecord_ok

theorem run_segmentAct_ok (segmentCalls : List SegmentCall) :
    ∀ {parser parser' : ParserBank} {owner owner' : μ},
      run (segmentAct act) (parser, owner) segmentCalls =
          .ok (parser', owner') ↔
        ∃ calls, Readers.bankCalls parser segmentCalls = .ok (parser', calls) ∧
          run act owner calls = .ok owner' := by
  induction segmentCalls with
  | nil =>
      intro parser parser' owner owner'
      constructor
      · intro ran
        cases ran
        exact ⟨[], rfl, rfl⟩
      · intro ran
        obtain ⟨calls, same, ended⟩ := ran
        cases same
        cases ended
        rfl
  | cons call rest inductionHypothesis =>
      intro parser parser' owner owner'
      rw [run_cons_ok]
      constructor
      · intro ran
        obtain ⟨⟨middle, between⟩, first, others⟩ := ran
        obtain ⟨firstCalls, recorded, ranFirst⟩ := segmentAct_ok.mp first
        obtain ⟨otherCalls, banked, ranOthers⟩ :=
          inductionHypothesis.mp others
        refine ⟨firstCalls ++ otherCalls, ?_, ?_⟩
        · exact bind_ok.mpr ⟨_, recorded, bind_ok.mpr ⟨_, banked, rfl⟩⟩
        · exact run_append_ok.mpr ⟨between, ranFirst, ranOthers⟩
      · intro ran
        obtain ⟨calls, banked, ranAll⟩ := ran
        obtain ⟨⟨middle, firstCalls⟩, recorded, later⟩ := bind_ok.mp banked
        obtain ⟨⟨last, otherCalls⟩, bankedRest, same⟩ := bind_ok.mp later
        cases same
        obtain ⟨between, ranFirst, ranOthers⟩ := run_append_ok.mp ranAll
        exact ⟨(middle, between), segmentAct_ok.mpr ⟨_, recorded, ranFirst⟩,
          inductionHypothesis.mpr ⟨_, bankedRest, ranOthers⟩⟩

/-- A run over some bytes succeeds when the readers do and the streams carry
out every effect. -/
theorem readBytes_ok {p p' : InputSide μ} {bytes : Bytes} :
    p.readBytes act bytes = .ok p' ↔
      ∃ calls, p.readers.calls bytes = .ok (p'.readers, calls) ∧
        run act p.streams calls = .ok p'.streams := by
  have follows := Emitter.follows_feed segmentReader (segmentAct act) bytes
    p.scan (p.parser, p.streams)
  rw [InputSide.readBytes, map_ok]
  constructor
  · intro read
    obtain ⟨c, fed, result⟩ := read
    cases result
    obtain ⟨segmentCalls, scanned, ran⟩ :=
      (follows (Emitter.scanOf c) c.state.2).mp fed
    obtain ⟨calls, banked, ranCalls⟩ := (run_segmentAct_ok segmentCalls).mp ran
    exact ⟨calls, bind_ok.mpr ⟨_, scanned, bind_ok.mpr ⟨_, banked, rfl⟩⟩,
      ranCalls⟩
  · intro read
    obtain ⟨calls, called, ranCalls⟩ := read
    obtain ⟨⟨scan, segmentCalls⟩, scanned, later⟩ := bind_ok.mp called
    obtain ⟨⟨parser, streamCalls⟩, banked, same⟩ := bind_ok.mp later
    cases p' with
    | mk scan' parser' streams' =>
        cases same
        have ran := (run_segmentAct_ok segmentCalls).mpr ⟨_, banked, ranCalls⟩
        exact ⟨_, (follows _ (parser', streams')).mpr ⟨_, scanned, ran⟩, rfl⟩

/-- What every effect keeps, a `readData` call keeps. -/
theorem readData_invariant (Inv : μ → Prop)
    (kept : ∀ streams call streams', Inv streams →
      act streams call = .ok streams' → Inv streams')
    {p p' : InputSide μ} {input : SmartBuffer} (initial : Inv p.streams)
    (read : p.readData act input = .ok p') : Inv p'.streams := by
  rw [InputSide.readData_eq_readBytes] at read
  obtain ⟨calls, _, ran⟩ := readBytes_ok.mp read
  exact run_invariant Inv kept initial ran

end Following

end GroupVoip
