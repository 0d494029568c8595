import GroupVoip.VideoScaling
import Mathlib.Data.List.Pairwise

/-!
# Where the streams are drawn

With an output of 640 times 480 every stream has its place in the output.  The
offsets of the three planes, and the rectangle that is reported, all say the
same place, and the places of the streams are apart from each other.
-/

namespace GroupVoip

open Library.Buffers Library.Checked Library.Planes Library.Runs

variable {γ : Type}

namespace VideoMixer

/-! ## The planes of the output -/

def yPlane : Plane where
  base := 0
  stride := 640
  rows := 480

def uPlane : Plane where
  base := 640 * 480
  stride := 320
  rows := 240

def vPlane : Plane where
  base := 640 * 480 * 5 / 4
  stride := 320
  rows := 240

/-- The planes of a stream stand at a place of the output, and the rest of the
output is as before. -/
structure Painted (s : Spot) (planes : Planes Bytes) (before after : Bytes) :
    Prop where
  y : yPlane.Paints s planes.y before after
  u : uPlane.Paints s.half planes.u before after
  v : vPlane.Paints s.half planes.v before after

/-- Planes that have a sample for every place that they are copied to. -/
def Fill (s : Spot) (planes : Planes Bytes) : Prop :=
  s.rows * s.width ≤ planes.y.length ∧
    s.half.rows * s.half.width ≤ planes.u.length ∧
    s.half.rows * s.half.width ≤ planes.v.length

theorem uPlane_contains {s : Spot} (contains : yPlane.Contains s) :
    uPlane.Contains s.half := by
  unfold Plane.Contains yPlane at contains
  unfold Plane.Contains uPlane Spot.half
  dsimp only at contains ⊢
  omega

theorem vPlane_contains {s : Spot} (contains : yPlane.Contains s) :
    vPlane.Contains s.half :=
  uPlane_contains contains

/-- The three copies of a stream, to its place on each plane. -/
theorem exists_copies {size : Nat} {s : Spot} {planes : Planes Bytes}
    (isSize : size = 640 * 480 * 3 / 2) (contains : yPlane.Contains s)
    (fill : Fill s planes) (out : Buffer UInt8 size) :
    ∃ first second third,
      copyRows planes.y s.width s.width 640 s.rows 0 (yPlane.offset s) out =
        some (first, yPlane.offset s + s.rows * 640) ∧
      copyRows planes.u s.half.width s.half.width 320 s.half.rows 0
          (uPlane.offset s.half) first =
        some (second, uPlane.offset s.half + s.half.rows * 320) ∧
      copyRows planes.v s.half.width s.half.width 320 s.half.rows 0
          (vPlane.offset s.half) second =
        some (third, vPlane.offset s.half + s.half.rows * 320) ∧
      Painted s planes out.cells third.cells := by
  have containsU := uPlane_contains contains
  have containsV := vPlane_contains contains
  have lastY : yPlane.last = 307200 := by decide
  have lastU : uPlane.last = 384000 := by decide
  have lastV : vPlane.last = 460800 := by decide
  have baseU : uPlane.base = 307200 := by decide
  have baseV : vPlane.base = 384000 := by decide
  obtain ⟨first, copiedY⟩ := Plane.exists_copyRows contains
    (by omega) fill.1 out
  obtain ⟨second, copiedU⟩ := Plane.exists_copyRows containsU
    (by omega) fill.2.1 first
  obtain ⟨third, copiedV⟩ := Plane.exists_copyRows containsV
    (by omega) fill.2.2 second
  refine ⟨first, second, third, copiedY, copiedU, copiedV, ?_⟩
  constructor
  · refine (Plane.copyRows_paints contains copiedY).congr contains
      (fun _ _ _ _ => rfl) ?_
    intro x y inRow inRows
    rw [Plane.copyRows_sampleAt containsV copiedV (Or.inl (by omega))
        inRow inRows,
      Plane.copyRows_sampleAt containsU copiedU (Or.inl (by omega))
        inRow inRows]
  · refine (Plane.copyRows_paints containsU copiedU).congr containsU ?_ ?_
    · intro x y inRow inRows
      exact Plane.copyRows_sampleAt contains copiedY (Or.inr (by omega))
        inRow inRows
    · intro x y inRow inRows
      exact Plane.copyRows_sampleAt containsV copiedV (Or.inl (by omega))
        inRow inRows
  · refine (Plane.copyRows_paints containsV copiedV).congr containsV ?_
      (fun _ _ _ _ => rfl)
    intro x y inRow inRows
    rw [Plane.copyRows_sampleAt containsU copiedU (Or.inr (by omega))
        inRow inRows,
      Plane.copyRows_sampleAt contains copiedY (Or.inr (by omega))
        inRow inRows]

theorem copyPlanes_painted {size : Nat} {s : Spot} {planes : Planes Bytes}
    (isSize : size = 640 * 480 * 3 / 2) (contains : yPlane.Contains s)
    (fill : Fill s planes) (out : Buffer UInt8 size) :
    ∃ out', copyPlanes planes 640 s.width s.rows (yPlane.offset s)
        (uPlane.offset s.half) (vPlane.offset s.half) out = .ok out' ∧
      Painted s planes out.cells out'.cells := by
  obtain ⟨first, second, third, copiedY, copiedU, copiedV, painted⟩ :=
    exists_copies isSize contains fill out
  refine ⟨third, ?_, painted⟩
  refine bind_ok.mpr ⟨_, congrArg inBounds copiedY, ?_⟩
  refine bind_ok.mpr ⟨_, congrArg inBounds copiedU, ?_⟩
  exact bind_ok.mpr ⟨_, congrArg inBounds copiedV, rfl⟩

/-! ## The places of the streams -/

def spots : Nat → List Spot
  | 1 => [⟨0, 0, 640, 480⟩]
  | 2 => [⟨0, 120, 320, 240⟩, ⟨320, 120, 320, 240⟩]
  | 3 => [⟨160, 0, 320, 240⟩, ⟨0, 240, 320, 240⟩, ⟨320, 240, 320, 240⟩]
  | 4 => [⟨0, 0, 320, 240⟩, ⟨320, 0, 320, 240⟩, ⟨0, 240, 320, 240⟩,
      ⟨320, 240, 320, 240⟩]
  | _ => []

/-- The rectangle that is reported for a place. -/
def rectAt (s : Spot) : VideoRect where
  x := s.left
  y := s.top
  width := s.width
  height := s.rows

/-- The starting offsets before a stream is drawn. -/
def Layout.startingOffsets (layout : Layout) : Nat → Nat × Nat
  | 0 => (layout.startingOffsetY, layout.startingOffsetUV)
  | index + 1 =>
      if layout.lastOfFirstLine = some index then
        (640 * 480 / 2, 640 * 480 / 8)
      else
        ((layout.startingOffsets index).1 + 320,
          (layout.startingOffsets index).2 + 320 / 2)

/-- The offsets of the planes and the reported rectangle of a stream belong to
one place. -/
def Layout.PutsAt (layout : Layout) (index : Nat) (s : Spot) : Prop :=
  layout.offsetY + (layout.startingOffsets index).1 = yPlane.offset s ∧
    layout.offsetU + (layout.startingOffsets index).2 =
      uPlane.offset s.half ∧
    layout.offsetV + (layout.startingOffsets index).2 =
      vPlane.offset s.half ∧
    (layout.startingOffsets index).1 % 640 = s.left ∧
    layout.rectY (layout.startingOffsets index).1 = s.top ∧
    s.width = 320 ∧ s.rows = 240 ∧ s.Even ∧ yPlane.Contains s

instance (layout : Layout) (index : Nat) (s : Spot) :
    Decidable (layout.PutsAt index s) :=
  inferInstanceAs (Decidable (_ ∧ _))

theorem layoutTwo_putsAt :
    ∀ p, p ∈ (spots 2).zipIdx → (layoutTwo 640 480).PutsAt p.2 p.1 := by
  decide

theorem layoutThree_putsAt :
    ∀ p, p ∈ (spots 3).zipIdx →
      (layoutThree 640 480 320).PutsAt p.2 p.1 := by
  decide

theorem layoutFour_putsAt :
    ∀ p, p ∈ (spots 4).zipIdx → (layoutFour 640 480).PutsAt p.2 p.1 := by
  decide

theorem spots_apart (totalStreams : Nat) :
    (spots totalStreams).Pairwise Spot.Apart := by
  unfold spots
  split <;> decide

/-! ## Drawing the streams -/

/-- The streams are at their places, and the rest of the output is black. -/
structure ShowsStreams (placed : List (Slot × Spot))
    (planes : Slot → Planes Bytes) (out : Bytes) : Prop where
  y : yPlane.Shows (placed.map fun p => (p.2, (planes p.1).y)) 16 out
  u : uPlane.Shows (placed.map fun p => (p.2.half, (planes p.1).u)) 128 out
  v : vPlane.Shows (placed.map fun p => (p.2.half, (planes p.1).v)) 128 out

theorem blacken_shows {size : Nat} (isSize : size = 640 * 480 * 3 / 2)
    (planes : Slot → Planes Bytes) (out : Buffer UInt8 size) :
    ∃ out', blacken 640 480 out = .ok out' ∧
      ShowsStreams [] planes out'.cells := by
  have lastY : yPlane.last = 307200 := by decide
  have lastU : uPlane.last = 384000 := by decide
  have lastV : vPlane.last = 460800 := by decide
  have baseY : yPlane.base = 0 := by decide
  have baseU : uPlane.base = 307200 := by decide
  have baseV : vPlane.base = 384000 := by decide
  obtain ⟨first, blackY⟩ := out.exists_write 0
    (List.replicate (640 * 480) (16 : UInt8))
    (by rw [List.length_replicate]; omega)
  obtain ⟨second, blackUV⟩ := first.exists_write (640 * 480)
    (List.replicate (640 * 480 / 2) (128 : UInt8))
    (by rw [List.length_replicate]; omega)
  refine ⟨second, ?_, ?_, ?_, ?_⟩
  · refine bind_ok.mpr ⟨first, congrArg inBounds blackY, ?_⟩
    exact congrArg inBounds blackUV
  · refine (Plane.write_background blackY (by omega) (by omega)).congr ?_ ?_
    · intro t other member
      cases member
    · intro x y inRow inRows
      exact Plane.write_sampleAt blackUV (by omega) inRow inRows
  · exact Plane.write_background blackUV (by omega) (by omega)
  · exact Plane.write_background blackUV (by omega) (by omega)

theorem ShowsStreams.paint {done : List (Slot × Spot)} {i : Slot} {s : Spot}
    {planes : Slot → Planes Bytes} {before after : Bytes}
    (shown : ShowsStreams done planes before) (even : s.Even)
    (painted : Painted s (planes i) before after)
    (others : ∀ p, p ∈ done →
      p.2.Even ∧ yPlane.Contains p.2 ∧ p.2.Apart s) :
    ShowsStreams (done ++ [(i, s)]) planes after := by
  have halves : ∀ (source : Planes Bytes → Bytes) t other,
      (t, other) ∈ done.map (fun p => (p.2.half, source (planes p.1))) →
      uPlane.Contains t ∧ t.Apart s.half := by
    intro source t other member
    obtain ⟨p, isDone, same⟩ := List.mem_map.mp member
    cases same
    obtain ⟨evenToo, contains, apart⟩ := others p isDone
    exact ⟨uPlane_contains contains, apart.half evenToo even⟩
  constructor
  · rw [List.map_append]
    refine shown.y.paint painted.y ?_
    intro t other member
    obtain ⟨p, isDone, same⟩ := List.mem_map.mp member
    cases same
    exact (others p isDone).2
  · rw [List.map_append]
    exact shown.u.paint painted.u (halves Planes.u)
  · rw [List.map_append]
    exact shown.v.paint painted.v (halves Planes.v)

/-- The drawing loop behind the streams in `done`. -/
structure Drawn {size : Nat} (layout : Layout) (done : List (Slot × Spot))
    (planes : Slot → Planes Bytes) (d : Drawing size) : Prop where
  offsetY : d.startingOffsetY = (layout.startingOffsets done.length).1
  offsetUV : d.startingOffsetUV = (layout.startingOffsets done.length).2
  rects : ∀ p, p ∈ done → d.videoRect p.1 = rectAt p.2
  shown : ShowsStreams done planes d.out.cells

/-- The streams are at different slots and at places apart from each other. -/
def Separate (p q : Slot × Spot) : Prop :=
  p.1 ≠ q.1 ∧ p.2.Apart q.2

instance : Std.Symm Separate where
  symm _ _ separate := ⟨separate.1.symm, separate.2.symm⟩

section Loop

variable {size : Nat} {layout : Layout} {planes : Slot → Planes Bytes}
  {scaled : Slot → Option (Planes Bytes)} {validStreamId : List Slot}

theorem drawTurn_drawn {done : List (Slot × Spot)} {i : Slot} {s : Spot}
    {d : Drawing size} (isSize : size = 640 * 480 * 3 / 2)
    (isStream : validStreamId[done.length]? = some i)
    (isScaled : scaled i = some (planes i)) (fill : Fill s (planes i))
    (putsAt : layout.PutsAt done.length s)
    (others : ∀ p, p ∈ done →
      p.2.Even ∧ yPlane.Contains p.2 ∧ Separate p (i, s))
    (drawn : Drawn layout done planes d) :
    ∃ d', drawTurn layout 640 480 320 240 scaled validStreamId d
        done.length = .ok d' ∧
      Drawn layout (done ++ [(i, s)]) planes d' := by
  obtain ⟨offsetY, offsetU, offsetV, left, top, width, rows, even, contains⟩ :=
    putsAt
  rw [← drawn.offsetY] at offsetY left top
  rw [← drawn.offsetUV] at offsetU offsetV
  obtain ⟨out, copied, painted⟩ :=
    copyPlanes_painted isSize contains fill d.out
  rw [width, rows, ← offsetY, ← offsetU, ← offsetV] at copied
  have shown := drawn.shown.paint even painted fun p isDone =>
    ⟨(others p isDone).1, (others p isDone).2.1, (others p isDone).2.2.2⟩
  have rect : ({ x := (d.startingOffsetY % 640 : Nat)
                 y := layout.rectY d.startingOffsetY
                 width := (320 : Nat)
                 height := (240 : Nat) } : VideoRect) = rectAt s := by
    rw [left, top, rectAt, width, rows]
  have rects : ∀ p, p ∈ done ++ [(i, s)] →
      Function.update d.videoRect i (rectAt s) p.1 = rectAt p.2 := by
    intro p member
    rcases List.mem_append.mp member with earlier | new
    · rw [Function.update_of_ne (others p earlier).2.2.1]
      exact drawn.rects p earlier
    · cases List.mem_singleton.mp new
      exact Function.update_self _ _ _
  have turned : drawTurn layout 640 480 320 240 scaled validStreamId d
      done.length = .ok (if layout.lastOfFirstLine = some done.length then
        { out := out
          videoRect := Function.update d.videoRect i (rectAt s)
          startingOffsetY := 640 * 480 / 2
          startingOffsetUV := 640 * 480 / 8 }
      else
        { out := out
          videoRect := Function.update d.videoRect i (rectAt s)
          startingOffsetY := d.startingOffsetY + 320
          startingOffsetUV := d.startingOffsetUV + 320 / 2 }) := by
    refine bind_ok.mpr ⟨i, congrArg inBounds isStream, ?_⟩
    refine bind_ok.mpr ⟨planes i, congrArg inBounds isScaled, ?_⟩
    refine bind_ok.mpr ⟨out, copied, ?_⟩
    rw [rect]
    split
    · rfl
    · rfl
  refine ⟨_, turned, ?_⟩
  have count : (done ++ [(i, s)]).length = done.length + 1 := by
    rw [List.length_append, List.length_singleton]
  constructor
  · rw [count, Layout.startingOffsets, ← drawn.offsetY]
    split
    · rfl
    · rfl
  · rw [count, Layout.startingOffsets, ← drawn.offsetUV]
    split
    · rfl
    · rfl
  · split
    · exact rects
    · exact rects
  · split
    · exact shown
    · exact shown

theorem drawTurns_drawn (isSize : size = 640 * 480 * 3 / 2)
    (placed rest : List (Slot × Spot))
    (separate : placed.Pairwise Separate)
    (isScaled : ∀ p, p ∈ placed →
      scaled p.1 = some (planes p.1) ∧ Fill p.2 (planes p.1))
    (streams : validStreamId = placed.map Prod.fst) :
    ∀ (done : List (Slot × Spot)) (d : Drawing size),
      placed = done ++ rest →
      (∀ p, p ∈ placed.zipIdx → layout.PutsAt p.2 p.1.2) →
      Drawn layout done planes d →
      ∃ d', run (drawTurn layout 640 480 320 240 scaled validStreamId) d
          (List.range' done.length rest.length) = .ok d' ∧
        Drawn layout placed planes d' := by
  induction rest with
  | nil =>
      intro done d split _ drawn
      rw [List.append_nil] at split
      rw [split]
      exact ⟨d, rfl, drawn⟩
  | cons p rest inductionHypothesis =>
      intro done d split putsAt drawn
      have place : ∀ q, q ∈ done → ∃ index, layout.PutsAt index q.2 := by
        intro q member
        obtain ⟨index, isAt⟩ := List.mem_iff_getElem?.mp
          (show q ∈ placed by rw [split]; exact List.mem_append_left _ member)
        exact ⟨index, putsAt _ (List.mk_mem_zipIdx_iff_getElem?.mpr isAt)⟩
      have here : placed[done.length]? = some p := by
        rw [split, List.getElem?_append_right le_rfl, Nat.sub_self]
        rfl
      have puts := putsAt _ (List.mk_mem_zipIdx_iff_getElem?.mpr here)
      have isStream : validStreamId[done.length]? = some p.1 := by
        rw [streams, List.getElem?_map, here]
        rfl
      obtain ⟨scaledHere, fill⟩ := isScaled p (List.mem_of_getElem? here)
      have others : ∀ q, q ∈ done →
          q.2.Even ∧ yPlane.Contains q.2 ∧ Separate q (p.1, p.2) := by
        intro q member
        obtain ⟨index, _, _, _, _, _, _, _, even, contains⟩ := place q member
        rw [split] at separate
        exact ⟨even, contains, (List.pairwise_append.mp separate).2.2 q member
          p List.mem_cons_self⟩
      obtain ⟨next, turned, drawnNext⟩ := drawTurn_drawn isSize isStream
        scaledHere fill puts others drawn
      obtain ⟨d', looped, drawnLast⟩ := inductionHypothesis (done ++ [p]) next
        (by rw [split, List.append_assoc, List.singleton_append]) putsAt
        drawnNext
      refine ⟨d', ?_, drawnLast⟩
      rw [List.length_append, List.length_singleton] at looped
      exact run_cons_ok.mpr ⟨next, turned, looped⟩

end Loop

/-- What is drawn when the streams have been put at their places. -/
structure Drawing.Finished {size : Nat} (placed : List (Slot × Spot))
    (planes : Slot → Planes Bytes) (d : Drawing size) : Prop where
  rects : ∀ p, p ∈ placed → d.videoRect p.1 = rectAt p.2
  shown : ShowsStreams placed planes d.out.cells

section Draw

variable {size : Nat} {planes : Slot → Planes Bytes}
  {scaled : Slot → Option (Planes Bytes)} {validStreamId : List Slot}
  {totalStreams : Nat}

theorem placed_separate (nodup : validStreamId.Nodup)
    (counted : validStreamId.length = (spots totalStreams).length) :
    (validStreamId.zip (spots totalStreams)).Pairwise Separate := by
  have differ : (validStreamId.zip (spots totalStreams)).Pairwise
      fun p q => p.1 ≠ q.1 := by
    rw [← List.pairwise_map, List.map_fst_zip counted.le]
    exact nodup
  have apart : (validStreamId.zip (spots totalStreams)).Pairwise
      fun p q => p.2.Apart q.2 := by
    rw [← List.pairwise_map, List.map_snd_zip counted.ge]
    exact spots_apart totalStreams
  exact differ.and apart

theorem drawStreams_finished {layout : Layout}
    (isSize : size = 640 * 480 * 3 / 2)
    (putsAt : ∀ p, p ∈ (spots totalStreams).zipIdx → layout.PutsAt p.2 p.1)
    (nodup : validStreamId.Nodup)
    (total : (spots totalStreams).length = totalStreams)
    (counted : validStreamId.length = totalStreams)
    (isScaled : ∀ p, p ∈ validStreamId.zip (spots totalStreams) →
      scaled p.1 = some (planes p.1) ∧ Fill p.2 (planes p.1))
    (d : Drawing size) :
    ∃ d', drawStreams layout 640 480 320 240 scaled validStreamId
        totalStreams d = .ok d' ∧
      d'.Finished (validStreamId.zip (spots totalStreams)) planes := by
  have sameLength : validStreamId.length = (spots totalStreams).length := by
    rw [total]
    exact counted
  obtain ⟨out, blackened, black⟩ := blacken_shows isSize planes d.out
  have putsPlaced : ∀ p,
      p ∈ (validStreamId.zip (spots totalStreams)).zipIdx →
      layout.PutsAt p.2 p.1.2 := by
    intro p member
    have isAt := List.mem_zipIdx_iff_getElem?.mp member
    have isSpot := (List.getElem?_zip_eq_some.mp isAt).2
    exact putsAt (p.1.2, p.2) (List.mk_mem_zipIdx_iff_getElem?.mpr isSpot)
  obtain ⟨d', looped, drawn⟩ := drawTurns_drawn isSize
    (validStreamId.zip (spots totalStreams))
    (validStreamId.zip (spots totalStreams))
    (placed_separate nodup sameLength) isScaled
    (List.map_fst_zip sameLength.le).symm [] { d with
      out := out
      startingOffsetY := layout.startingOffsetY
      startingOffsetUV := layout.startingOffsetUV } rfl putsPlaced
    { offsetY := rfl
      offsetUV := rfl
      rects := fun p member => (List.not_mem_nil member).elim
      shown := black }
  refine ⟨d', ?_, drawn.rects, drawn.shown⟩
  rw [List.length_zip, ← sameLength, Nat.min_self, counted, List.length_nil,
    ← List.range_eq_range'] at looped
  exact bind_ok.mpr ⟨out, blackened, looped⟩

/-- A single stream fills the output. -/
theorem drawOne_finished (isSize : size = 640 * 480 * 3 / 2) {i : Slot}
    (isScaled : scaled i = some (planes i))
    (fill : Fill ⟨0, 0, 640, 480⟩ (planes i)) (d : Drawing size) :
    ∃ d', drawOne 640 480 640 scaled [i] d = .ok d' ∧
      d'.Finished [(i, ⟨0, 0, 640, 480⟩)] planes := by
  obtain ⟨first, second, third, copiedY, copiedU, copiedV, painted⟩ :=
    exists_copies isSize (s := ⟨0, 0, 640, 480⟩) (by decide) fill d.out
  refine ⟨{ d with
    out := third
    videoRect := Function.update d.videoRect i
      { x := 0, y := 0, width := (640 : Nat), height := (480 : Nat) } },
    ?_, ?_, ?_⟩
  · refine bind_ok.mpr ⟨i, rfl, ?_⟩
    refine bind_ok.mpr ⟨planes i, congrArg inBounds isScaled, ?_⟩
    refine bind_ok.mpr ⟨_, congrArg inBounds copiedY, ?_⟩
    refine bind_ok.mpr ⟨_, congrArg inBounds copiedU, ?_⟩
    exact bind_ok.mpr ⟨_, congrArg inBounds copiedV, rfl⟩
  · intro p member
    cases List.mem_singleton.mp member
    exact Function.update_self _ _ _
  · exact ⟨painted.y.fill rfl, painted.u.fill rfl, painted.v.fill rfl⟩

theorem draw_finished (isSize : size = 640 * 480 * 3 / 2)
    (total : 1 ≤ totalStreams ∧ totalStreams ≤ 4)
    (nodup : validStreamId.Nodup)
    (counted : validStreamId.length = totalStreams)
    (isScaled : ∀ p, p ∈ validStreamId.zip (spots totalStreams) →
      scaled p.1 = some (planes p.1) ∧ Fill p.2 (planes p.1))
    (d : Drawing size) :
    ∃ d', draw 640 480 scaled validStreamId totalStreams d = .ok d' ∧
      d'.Finished (validStreamId.zip (spots totalStreams)) planes := by
  have few : totalStreams = 1 ∨ totalStreams = 2 ∨ totalStreams = 3 ∨
      totalStreams = 4 := by
    omega
  rcases few with one | two | three | four
  · subst one
    obtain ⟨i, single⟩ := List.length_eq_one_iff.mp counted
    subst single
    obtain ⟨scaledHere, fill⟩ :=
      isScaled (i, ⟨0, 0, 640, 480⟩) (List.mem_singleton_self _)
    exact drawOne_finished isSize scaledHere fill d
  · subst two
    exact drawStreams_finished isSize layoutTwo_putsAt nodup rfl counted
      isScaled d
  · subst three
    exact drawStreams_finished isSize layoutThree_putsAt nodup rfl counted
      isScaled d
  · subst four
    exact drawStreams_finished isSize layoutFour_putsAt nodup rfl counted
      isScaled d

end Draw

/-! ## mixStreams -/

/-- Each valid slot has a place in the output, which is the one that is
reported.  The scaled planes of the slot are there, and what belongs to no
slot is black. -/
structure LaidOut (totalStreams : Nat) (valid : Slot → Bool)
    (scaled : Slot → Option (Planes Bytes)) (videoRect : Slot → VideoRect)
    (out : Bytes) (spot : Slot → Spot) : Prop where
  size : out.length = 640 * 480 * 3 / 2
  reported : ∀ i, valid i = true → videoRect i = rectAt (spot i)
  scaledSize : ∀ i, valid i = true →
    (spot i).width = mappingToScalingWidth totalStreams ∧
      (spot i).rows = mappingToScalingHeight totalStreams
  inside : ∀ i, valid i = true →
    (spot i).Even ∧ yPlane.Contains (spot i)
  disjoint : ∀ i j, valid i = true → valid j = true → i ≠ j →
    ∀ x y, (spot i).Covers x y → ¬ (spot j).Covers x y
  shown : ∀ i, valid i = true → ∃ planes, scaled i = some planes ∧
    ∀ x y,
      ((spot i).Covers x y →
        yPlane.sampleAt out x y = (spot i).entry planes.y x y) ∧
      ((spot i).half.Covers x y →
        uPlane.sampleAt out x y = (spot i).half.entry planes.u x y ∧
          vPlane.sampleAt out x y = (spot i).half.entry planes.v x y)
  blackY : ∀ x y, x < 640 → y < 480 →
    (∀ i, valid i = true → ¬ (spot i).Covers x y) →
    yPlane.sampleAt out x y = some 16
  blackUV : ∀ x y, x < 640 / 2 → y < 480 / 2 →
    (∀ i, valid i = true → ¬ (spot i).half.Covers x y) →
    uPlane.sampleAt out x y = some 128 ∧ vPlane.sampleAt out x y = some 128

/-- The place of a reported rectangle. -/
def spotOf (r : VideoRect) : Spot where
  left := r.x.toNat
  top := r.y.toNat
  width := r.width.toNat
  rows := r.height.toNat

theorem spotOf_rectAt (s : Spot) : spotOf (rectAt s) = s :=
  rfl

theorem spots_size (totalStreams : Nat) :
    ∀ s, s ∈ spots totalStreams →
      s.width = mappingToScalingWidth totalStreams ∧
        s.rows = mappingToScalingHeight totalStreams ∧
        s.Even ∧ yPlane.Contains s := by
  unfold spots
  split
  · decide
  · decide
  · decide
  · decide
  · intro s member
    cases member

theorem length_spots {totalStreams : Nat}
    (total : 1 ≤ totalStreams ∧ totalStreams ≤ 4) :
    (spots totalStreams).length = totalStreams := by
  have few : totalStreams = 1 ∨ totalStreams = 2 ∨ totalStreams = 3 ∨
      totalStreams = 4 := by
    omega
  rcases few with rfl | rfl | rfl | rfl <;> rfl

/-- Scaled planes have a sample for every place of a spot of their size. -/
theorem fill_scaledPlanes {totalStreams : Nat} {s : Spot}
    (isSpot : s ∈ spots totalStreams) (contents : Planes (Nat → UInt8)) :
    Fill s (scaledPlanes (mappingToScalingWidth totalStreams)
      (mappingToScalingHeight totalStreams) contents) := by
  obtain ⟨width, rows, even, _⟩ := spots_size totalStreams s isSpot
  obtain ⟨a, isWidth⟩ := Nat.dvd_of_mod_eq_zero even.2.2.1
  obtain ⟨b, isRows⟩ := Nat.dvd_of_mod_eq_zero even.2.2.2
  have quarter : s.half.rows * s.half.width ≤ (s.width * s.rows + 4) / 4 := by
    have area : s.width * s.rows = 4 * (b * a) := by
      rw [isWidth, isRows]
      ring
    unfold Spot.half
    dsimp only
    rw [area, isWidth, isRows, Nat.mul_div_cancel_left _ Nat.two_pos,
      Nat.mul_div_cancel_left _ Nat.two_pos]
    omega
  rw [← width, ← rows]
  unfold Fill scaledPlanes
  simp only [List.length_map, List.length_range]
  exact ⟨(Nat.mul_comm _ _).le, quarter, quarter⟩

/-- What the library has filled is enough for any place of the layout. -/
theorem exists_planes {l : Swscale γ} {swsCtx : Slot → Option SwsContext}
    {rawData : Slot → Option VideoRawData} {totalStreams : Nat}
    {scaled : Slot → Option (Planes Bytes)}
    (allScaled : ∀ i, videoValid (rawData i) = true →
      Scaled l swsCtx rawData totalStreams i (scaled i)) :
    ∃ planes : Slot → Planes Bytes, ∀ i, videoValid (rawData i) = true →
      scaled i = some (planes i) ∧
        ∀ s, s ∈ spots totalStreams → Fill s (planes i) := by
  refine ⟨fun i => (scaled i).getD ⟨[], [], []⟩, ?_⟩
  intro i valid
  obtain ⟨_, _, _, _, _, _, _, same⟩ := allScaled i valid
  dsimp only
  rw [same, Option.getD_some]
  exact ⟨rfl, fun s isSpot => fill_scaledPlanes isSpot _⟩

theorem Drawing.Finished.laidOut {size totalStreams : Nat}
    {valid : Slot → Bool} {scaled : Slot → Option (Planes Bytes)}
    {planes : Slot → Planes Bytes} {validStreamId : List Slot}
    {d : Drawing size} (isSize : size = 640 * 480 * 3 / 2)
    (finished : d.Finished (validStreamId.zip (spots totalStreams)) planes)
    (members : ∀ i, i ∈ validStreamId ↔ valid i = true)
    (nodup : validStreamId.Nodup)
    (counted : validStreamId.length = (spots totalStreams).length)
    (isScaled : ∀ i, valid i = true → scaled i = some (planes i)) :
    LaidOut totalStreams valid scaled d.videoRect d.out.cells
      fun i => spotOf (d.videoRect i) := by
  have placed : ∀ i, valid i = true → ∃ s, s ∈ spots totalStreams ∧
      (i, s) ∈ validStreamId.zip (spots totalStreams) ∧
      d.videoRect i = rectAt s := by
    intro i isValid
    have inIds := (members i).mpr isValid
    rw [← List.map_fst_zip counted.le] at inIds
    obtain ⟨p, member, same⟩ := List.mem_map.mp inIds
    refine ⟨p.2, (List.of_mem_zip member).2, ?_, ?_⟩
    · rw [← same]
      exact member
    · rw [← same]
      exact finished.rects p member
  have uncoveredAll : ∀ (place : Spot → Spot) x y,
      (∀ i, valid i = true →
        ¬ (place (spotOf (d.videoRect i))).Covers x y) →
      ∀ (source : Planes Bytes → Bytes) t other,
        (t, other) ∈ (validStreamId.zip (spots totalStreams)).map
          (fun p => (place p.2, source (planes p.1))) → ¬ t.Covers x y := by
    intro place x y uncovered source t other member
    obtain ⟨p, isPlaced, same⟩ := List.mem_map.mp member
    cases same
    have isValid := (members p.1).mp (List.of_mem_zip isPlaced).1
    have notHere := uncovered p.1 isValid
    rw [finished.rects p isPlaced, spotOf_rectAt] at notHere
    exact notHere
  constructor
  · rw [d.out.length_eq, isSize]
  · intro i isValid
    obtain ⟨s, _, _, rect⟩ := placed i isValid
    rw [rect, spotOf_rectAt]
  · intro i isValid
    obtain ⟨s, isSpot, _, rect⟩ := placed i isValid
    rw [rect, spotOf_rectAt]
    obtain ⟨width, rows, _⟩ := spots_size totalStreams s isSpot
    exact ⟨width, rows⟩
  · intro i isValid
    obtain ⟨s, isSpot, _, rect⟩ := placed i isValid
    rw [rect, spotOf_rectAt]
    exact (spots_size totalStreams s isSpot).2.2
  · intro i j isValid isValidToo differ x y covers
    obtain ⟨s, _, first, rect⟩ := placed i isValid
    obtain ⟨t, _, second, rectToo⟩ := placed j isValidToo
    rw [rect, spotOf_rectAt] at covers
    rw [rectToo, spotOf_rectAt]
    have separate := (placed_separate nodup counted).forall first second
      fun same => differ (congrArg Prod.fst same)
    exact separate.2.not_both covers
  · intro i isValid
    obtain ⟨s, _, member, rect⟩ := placed i isValid
    refine ⟨planes i, isScaled i isValid, ?_⟩
    intro x y
    rw [rect, spotOf_rectAt]
    constructor
    · intro covers
      exact finished.shown.y.inside _ _
        (List.mem_map.mpr ⟨(i, s), member, rfl⟩) x y covers
    · intro covers
      exact ⟨finished.shown.u.inside _ _
          (List.mem_map.mpr ⟨(i, s), member, rfl⟩) x y covers,
        finished.shown.v.inside _ _
          (List.mem_map.mpr ⟨(i, s), member, rfl⟩) x y covers⟩
  · intro x y inRow inRows uncovered
    exact finished.shown.y.outside x y inRow inRows
      (uncoveredAll id x y uncovered Planes.y)
  · intro x y inRow inRows uncovered
    exact ⟨finished.shown.u.outside x y inRow inRows
        (uncoveredAll Spot.half x y uncovered Planes.u),
      finished.shown.v.outside x y inRow inRows
        (uncoveredAll Spot.half x y uncovered Planes.v)⟩

/-- With up to four valid streams, whatever their slots and their pictures,
what is returned is laid out as reported. -/
theorem mixStreams_laidOut (l : Swscale γ) (held : Nat → UInt8)
    (m : VideoMixer γ) (mix : VideoMix) (videoRect : Slot → VideoRect)
    (made : ∀ library ctx, (l.getCachedContext library ctx).2 = true)
    (output : m.outputWidth = 640 ∧ m.outputHeight = 480)
    (total : 1 ≤ mix.totalStreams ∧ mix.totalStreams ≤ 4)
    (counted : mix.totalStreams =
      Streams.slots.countP fun i => videoValid (mix.rawData i))
    (pictures : ∀ i v, mix.rawData i = some v →
      v.rawVideoSettings.bIsValid = true → (inputPlanes v).isSome = true) :
    ∃ mixed out spot, m.mixStreams l held mix videoRect = .ok mixed ∧
      mixed.result = some out ∧
      LaidOut mix.totalStreams (fun i => videoValid (mix.rawData i))
        mixed.scaledVideoPlanes mixed.videoRect out spot ∧
      ∀ i, videoValid (mix.rawData i) = true →
        Scaled l mixed.mixer.swsCtx mix.rawData mix.totalStreams i
          (mixed.scaledVideoPlanes i) := by
  obtain ⟨ready, isReady⟩ :=
    exists_tryToInitSws made m mix.rawData mix.totalStreams
  obtain ⟨sameOutput, _⟩ := tryToInitSws_ok isReady
  rcases scaleSlots_cases (l := l) ready.library
      (fun _ valid => isSome_tryToInitSws isReady valid) counted with
    ⟨s, looped, ids, isCounted, allScaled⟩ | ⟨noPlanes, _⟩
  · have members : ∀ i, i ∈ s.validStreamId ↔
        videoValid (mix.rawData i) = true := by
      intro i
      rw [ids, List.mem_filter]
      exact and_iff_right (Streams.mem_slots i)
    have nodup : s.validStreamId.Nodup := by
      rw [ids]
      exact Streams.slots_nodup.filter _
    obtain ⟨planes, arePlanes⟩ := exists_planes allScaled
    have sameLength : s.validStreamId.length =
        (spots mix.totalStreams).length := by
      rw [length_spots total]
      exact isCounted
    have placedScaled : ∀ p,
        p ∈ s.validStreamId.zip (spots mix.totalStreams) →
        s.scaledVideoPlanes p.1 = some (planes p.1) ∧
          Fill p.2 (planes p.1) := by
      intro p member
      obtain ⟨isStream, isSpot⟩ := List.of_mem_zip member
      obtain ⟨isScaled, fills⟩ :=
        arePlanes p.1 ((members p.1).mp isStream)
      exact ⟨isScaled, fills p.2 isSpot⟩
    cases ready with
    | mk library outputWidth outputHeight swsCtx remembered =>
        have isWidth : outputWidth = 640 := sameOutput.1.trans output.1
        have isHeight : outputHeight = 480 := sameOutput.2.trans output.2
        subst isWidth isHeight
        obtain ⟨d, drawn, finished⟩ := draw_finished rfl total nodup
          isCounted placedScaled
          { out := Buffer.fresh held (640 * 480 * 3 / 2)
            videoRect := videoRect }
        refine ⟨{
          mixer := ⟨s.library, 640, 480, swsCtx, remembered⟩
          scaledVideoPlanes := s.scaledVideoPlanes
          result := some d.out.cells
          videoRect := d.videoRect }, d.out.cells, _, ?_, rfl,
          finished.laidOut rfl members nodup sameLength
            fun i valid => (arePlanes i valid).1, allScaled⟩
        refine bind_ok.mpr ⟨_, isReady, ?_⟩
        refine bind_ok.mpr ⟨s, looped, ?_⟩
        refine bind_ok.mpr ⟨(), if_pos (decide_eq_true isCounted), ?_⟩
        rw [if_pos (by exact total.1)]
        exact bind_ok.mpr ⟨d, drawn, rfl⟩
  · obtain ⟨i, v, cached, valid, missing⟩ := noPlanes
    have present := pictures i v cached valid
    rw [missing] at present
    cases present

/-- A library for pictures of a single colour. -/
def plainSwscale : Swscale Unit where
  getCachedContext _ _ := ((), true)
  freeContext _ _ := ()
  scale _ _ inputPlanes _ _ := ((), {
    y := fun _ => (inputPlanes 0).headD 0
    u := fun _ => (inputPlanes 1).headD 0
    v := fun _ => (inputPlanes 2).headD 0 })

def plainPicture : VideoRawData where
  rawVideoPlanes plane :=
    some (List.replicate (if plane = 0 then 640 * 480 else 320 * 240) 81)
  rawVideoStrides plane := if plane = 0 then 640 else 320
  rawVideoSettings := { width := 640, height := 480, bIsValid := true }

/-- The streams at the slots 3 and 7. -/
def twoPictures : VideoMix where
  rawData i := if i.val = 3 ∨ i.val = 7 then some plainPicture else none
  totalStreams := 2

theorem mixStreams_laidOut_two :
    ∃ mixed out spot,
      VideoMixer.mixStreams plainSwscale (fun _ => 0)
        { library := (), outputWidth := 640, outputHeight := 480 }
        twoPictures (fun _ => ⟨0, 0, 0, 0⟩) = .ok mixed ∧
      mixed.result = some out ∧
      LaidOut 2 (fun i => videoValid (twoPictures.rawData i))
        mixed.scaledVideoPlanes mixed.videoRect out spot ∧
      ∀ i, videoValid (twoPictures.rawData i) = true →
        Scaled plainSwscale mixed.mixer.swsCtx twoPictures.rawData 2 i
          (mixed.scaledVideoPlanes i) := by
  refine mixStreams_laidOut plainSwscale (fun _ => 0) _ twoPictures _
    (fun _ _ => rfl) ⟨rfl, rfl⟩ (by decide) (by decide) ?_
  intro i v cached _
  unfold twoPictures at cached
  dsimp only at cached
  split at cached
  · cases cached
    rfl
  · cases cached

end VideoMixer

end GroupVoip
