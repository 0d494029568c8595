import GroupVoip.Library.Buffers

/-!
# Planes in a buffer

A plane is a block of rows, each a fixed distance behind the one before.  A
picture is copied into a plane row by row; the rows may be longer in the plane
than in the picture, or the other way round.
-/

namespace GroupVoip.Library.Planes

open GroupVoip.Library.Buffers

variable {α : Type} {capacity : Nat}

/-- `count` entries of a block from `start` on, if it has as many. -/
def readRow (source : List α) (start count : Nat) : Option (List α) :=
  if start + count ≤ source.length then
    some ((source.drop start).take count)
  else none

/-- Copy rows of `width` entries from `source`, from the entry `offsetIn` on,
to the place `offsetOut` of a buffer.  The second result is the place behind
the rows. -/
def copyRows (source : List α) (width sourceStride targetStride : Nat) :
    Nat → Nat → Nat → Buffer α capacity → Option (Buffer α capacity × Nat)
  | 0, _, offsetOut, b => some (b, offsetOut)
  | rows + 1, offsetIn, offsetOut, b => do
      let row ← readRow source offsetIn width
      let b ← b.write offsetOut row
      copyRows source width sourceStride targetStride rows
        (offsetIn + sourceStride) (offsetOut + targetStride) b

/-! ## One row -/

theorem readRow_of_le {source : List α} {start count : Nat}
    (fits : start + count ≤ source.length) :
    ∃ row, readRow source start count = some row ∧ row.length = count ∧
      ∀ j, j < count → row[j]? = source[start + j]? := by
  refine ⟨_, if_pos fits, ?_, ?_⟩
  · rw [List.length_take, List.length_drop]
    omega
  · intro j within
    rw [List.getElem?_take_of_lt within, List.getElem?_drop]

/-- The cells that are not written stay as they are. -/
theorem getElem?_write_of_outside {b b' : Buffer α capacity} {start k : Nat}
    {data : List α} (written : b.write start data = some b')
    (outside : k < start ∨ start + data.length ≤ k) :
    b'.cells[k]? = b.cells[k]? := by
  obtain ⟨fits, cells⟩ := Buffer.write_eq_some written
  have length_eq := b.length_eq
  have front : (b.cells.take start).length = start := by
    rw [List.length_take]
    omega
  rw [cells]
  rcases outside with before | behind
  · rw [List.append_assoc, List.getElem?_append_left (by omega),
      List.getElem?_take_of_lt before]
  · rw [List.getElem?_append_right
      (by rw [List.length_append]; omega), List.length_append, front,
      List.getElem?_drop]
    congr 1
    omega

theorem getElem?_write {b b' : Buffer α capacity} {start j : Nat}
    {data : List α} (written : b.write start data = some b')
    (within : j < data.length) : b'.cells[start + j]? = data[j]? := by
  obtain ⟨fits, cells⟩ := Buffer.write_eq_some written
  have length_eq := b.length_eq
  have front : (b.cells.take start).length = start := by
    rw [List.length_take]
    omega
  rw [cells, List.append_assoc, List.getElem?_append_right (by omega), front,
    List.getElem?_append_left (by omega)]
  congr 1
  omega

/-! ## All rows -/

section Rows

variable {source : List α} {width sourceStride targetStride : Nat}

/-- Rows that lie in the source and in the buffer can be copied. -/
theorem copyRows_fits (rows : Nat) :
    ∀ {offsetIn offsetOut : Nat} (b : Buffer α capacity),
      (∀ r, r < rows →
        offsetIn + r * sourceStride + width ≤ source.length ∧
          offsetOut + r * targetStride + width ≤ capacity) →
      ∃ b', copyRows source width sourceStride targetStride rows offsetIn
        offsetOut b = some (b', offsetOut + rows * targetStride) := by
  induction rows with
  | zero =>
      intro offsetIn offsetOut b _
      exact ⟨b, by rw [copyRows, Nat.zero_mul, Nat.add_zero]⟩
  | succ rows inductionHypothesis =>
      intro offsetIn offsetOut b fits
      obtain ⟨sourceFits, targetFits⟩ := fits 0 (Nat.succ_pos rows)
      rw [Nat.zero_mul, Nat.add_zero] at sourceFits targetFits
      obtain ⟨row, read, length_eq, _⟩ := readRow_of_le sourceFits
      obtain ⟨next, written⟩ := b.exists_write offsetOut row (by omega)
      have fitsLater : ∀ r, r < rows →
          offsetIn + sourceStride + r * sourceStride + width ≤
              source.length ∧
            offsetOut + targetStride + r * targetStride + width ≤
              capacity := by
        intro r within
        have later := fits (r + 1) (Nat.succ_lt_succ within)
        rw [Nat.succ_mul, Nat.succ_mul] at later
        omega
      obtain ⟨b', copied⟩ := inductionHypothesis next fitsLater
      refine ⟨b', ?_⟩
      rw [copyRows, read]
      simp only [Option.bind_eq_bind, Option.bind_some, written, copied]
      rw [Nat.succ_mul]
      congr 2
      omega

theorem copyRows_succ {rows offsetIn offsetOut last : Nat}
    {b b' : Buffer α capacity}
    (copied : copyRows source width sourceStride targetStride (rows + 1)
      offsetIn offsetOut b = some (b', last)) :
    ∃ row next, readRow source offsetIn width = some row ∧
      row.length = width ∧ b.write offsetOut row = some next ∧
      copyRows source width sourceStride targetStride rows
        (offsetIn + sourceStride) (offsetOut + targetStride) next =
          some (b', last) := by
  rw [copyRows] at copied
  obtain ⟨row, read, rest⟩ := Option.bind_eq_some_iff.mp copied
  obtain ⟨next, written, later⟩ := Option.bind_eq_some_iff.mp rest
  refine ⟨row, next, read, ?_, written, later⟩
  unfold readRow at read
  split at read
  · cases read
    rw [List.length_take, List.length_drop]
    omega
  · cases read

/-- A cell that is in none of the rows stays as it is. -/
theorem copyRows_outside (rows : Nat) :
    ∀ {offsetIn offsetOut last k : Nat} {b b' : Buffer α capacity},
      copyRows source width sourceStride targetStride rows offsetIn offsetOut
        b = some (b', last) →
      (∀ r, r < rows → k < offsetOut + r * targetStride ∨
        offsetOut + r * targetStride + width ≤ k) →
      b'.cells[k]? = b.cells[k]? := by
  induction rows with
  | zero =>
      intro offsetIn offsetOut last k b b' copied _
      cases copied
      rfl
  | succ rows inductionHypothesis =>
      intro offsetIn offsetOut last k b b' copied outside
      obtain ⟨row, next, _, length_eq, written, later⟩ := copyRows_succ copied
      have first := outside 0 (Nat.succ_pos rows)
      rw [Nat.zero_mul, Nat.add_zero] at first
      have others : ∀ r, r < rows →
          k < offsetOut + targetStride + r * targetStride ∨
            offsetOut + targetStride + r * targetStride + width ≤ k := by
        intro r within
        have other := outside (r + 1) (Nat.succ_lt_succ within)
        rw [Nat.succ_mul] at other
        omega
      rw [inductionHypothesis later others,
        getElem?_write_of_outside written (by omega)]

/-- Rows that do not reach into each other are all there in the end. -/
theorem copyRows_inside (separate : width ≤ targetStride) (rows : Nat) :
    ∀ {offsetIn offsetOut last r j : Nat} {b b' : Buffer α capacity},
      copyRows source width sourceStride targetStride rows offsetIn offsetOut
        b = some (b', last) →
      r < rows → j < width →
      b'.cells[offsetOut + r * targetStride + j]? =
        source[offsetIn + r * sourceStride + j]? := by
  induction rows with
  | zero =>
      intro offsetIn offsetOut last r j b b' _ noRow
      cases noRow
  | succ rows inductionHypothesis =>
      intro offsetIn offsetOut last r j b b' copied within inRow
      obtain ⟨row, next, read, length_eq, written, later⟩ :=
        copyRows_succ copied
      cases r with
      | zero =>
          have behind : ∀ r, r < rows →
              offsetOut + j < offsetOut + targetStride + r * targetStride ∨
                offsetOut + targetStride + r * targetStride + width ≤
                  offsetOut + j := by
            intro r _
            omega
          have sourceFits : offsetIn + width ≤ source.length := by
            unfold readRow at read
            split at read
            · assumption
            · cases read
          obtain ⟨other, readToo, _, entries⟩ := readRow_of_le sourceFits
          cases read.symm.trans readToo
          rw [Nat.zero_mul, Nat.zero_mul, Nat.add_zero, Nat.add_zero,
            copyRows_outside rows later behind,
            getElem?_write written (by omega), entries j inRow]
      | succ r =>
          have there := inductionHypothesis later
            (Nat.lt_of_succ_lt_succ within) inRow
          rw [Nat.succ_mul, Nat.succ_mul]
          rw [show offsetOut + (r * targetStride + targetStride) + j =
              offsetOut + targetStride + r * targetStride + j by omega,
            show offsetIn + (r * sourceStride + sourceStride) + j =
              offsetIn + sourceStride + r * sourceStride + j by omega]
          exact there

end Rows

/-! ## Places in a plane -/

section Places

variable {source : List α} {width stride rows base last : Nat}
  {b b' : Buffer α capacity}

/-- Place `x`, `y` of a picture of `width` times `rows` that stands at `left`,
`top`. -/
def InPicture (left top width rows x y : Nat) : Prop :=
  left ≤ x ∧ x < left + width ∧ top ≤ y ∧ y < top + rows

instance (left top width rows x y : Nat) :
    Decidable (InPicture left top width rows x y) :=
  inferInstanceAs (Decidable (_ ∧ _ ∧ _ ∧ _))

/-- A picture that is copied to `left`, `top` of a plane is there afterwards. -/
theorem copyRows_inPicture {left top x y : Nat}
    (copied : copyRows source width width stride rows 0
      (base + (top * stride + left)) b = some (b', last))
    (fits : left + width ≤ stride)
    (inPicture : InPicture left top width rows x y) :
    b'.cells[base + (y * stride + x)]? =
      source[(y - top) * width + (x - left)]? := by
  obtain ⟨leftOf, inWidth, above, inRows⟩ := inPicture
  obtain ⟨r, rfl⟩ := Nat.exists_eq_add_of_le above
  obtain ⟨j, rfl⟩ := Nat.exists_eq_add_of_le leftOf
  have there := copyRows_inside (show width ≤ stride by omega) rows copied
    (r := r) (j := j) (by omega) (by omega)
  rw [Nat.add_sub_cancel_left, Nat.add_sub_cancel_left, Nat.add_mul]
  rw [Nat.zero_add] at there
  rw [← there]
  congr 1
  omega

/-- The rest of the plane stays as it is. -/
theorem copyRows_notInPicture {left top x y : Nat}
    (copied : copyRows source width width stride rows 0
      (base + (top * stride + left)) b = some (b', last))
    (fits : left + width ≤ stride) (inPlane : x < stride)
    (notInPicture : ¬ InPicture left top width rows x y) :
    b'.cells[base + (y * stride + x)]? =
      b.cells[base + (y * stride + x)]? := by
  apply copyRows_outside rows copied
  intro r within
  rcases Nat.lt_trichotomy y (top + r) with above | sameRow | below
  · have before : (y + 1) * stride ≤ (top + r) * stride :=
      Nat.mul_le_mul_right stride above
    rw [Nat.succ_mul, Nat.add_mul] at before
    omega
  · subst sameRow
    rw [InPicture] at notInPicture
    rw [Nat.add_mul]
    omega
  · have behind : (top + r + 1) * stride ≤ y * stride :=
      Nat.mul_le_mul_right stride below
    rw [Nat.succ_mul, Nat.add_mul] at behind
    omega

/-- What stands before the plane, or behind the rows, stays as it is. -/
theorem copyRows_otherPlane {left top k : Nat}
    (copied : copyRows source width width stride rows 0
      (base + (top * stride + left)) b = some (b', last))
    (fits : left + width ≤ stride)
    (other : k < base ∨ base + (top + rows) * stride ≤ k) :
    b'.cells[k]? = b.cells[k]? := by
  apply copyRows_outside rows copied
  intro r within
  rcases other with before | behind
  · omega
  · have lastRow : (top + (r + 1)) * stride ≤ (top + rows) * stride :=
      Nat.mul_le_mul_right stride (by omega)
    rw [Nat.add_mul, Nat.succ_mul] at lastRow
    omega

end Places

/-! ## Pictures on the planes of a buffer -/

/-- A plane of a buffer. -/
structure Plane where
  base : Nat
  stride : Nat
  rows : Nat
deriving DecidableEq, Repr

/-- The place of a picture on a plane. -/
structure Spot where
  left : Nat
  top : Nat
  width : Nat
  rows : Nat
deriving DecidableEq, Repr

namespace Spot

def Covers (s : Spot) (x y : Nat) : Prop :=
  InPicture s.left s.top s.width s.rows x y

instance (s : Spot) (x y : Nat) : Decidable (s.Covers x y) :=
  inferInstanceAs (Decidable (InPicture _ _ _ _ _ _))

/-- The entry of a picture that belongs to `x`, `y`. -/
def entry (s : Spot) (source : List α) (x y : Nat) : Option α :=
  source[(y - s.top) * s.width + (x - s.left)]?

/-- One place is beside the other, or below it. -/
def Apart (s t : Spot) : Prop :=
  s.left + s.width ≤ t.left ∨ t.left + t.width ≤ s.left ∨
    s.top + s.rows ≤ t.top ∨ t.top + t.rows ≤ s.top

instance (s t : Spot) : Decidable (s.Apart t) :=
  inferInstanceAs (Decidable (_ ∨ _))

theorem Apart.symm {s t : Spot} (apart : s.Apart t) : t.Apart s := by
  unfold Apart at apart ⊢
  omega

theorem Apart.not_both {s t : Spot} (apart : s.Apart t) {x y : Nat}
    (covers : s.Covers x y) : ¬ t.Covers x y := by
  unfold Apart at apart
  unfold Covers InPicture at covers ⊢
  omega

/-- The place with half the resolution. -/
def half (s : Spot) : Spot where
  left := s.left / 2
  top := s.top / 2
  width := s.width / 2
  rows := s.rows / 2

/-- The place is at even coordinates, so that `half` loses nothing. -/
def Even (s : Spot) : Prop :=
  s.left % 2 = 0 ∧ s.top % 2 = 0 ∧ s.width % 2 = 0 ∧ s.rows % 2 = 0

instance (s : Spot) : Decidable s.Even :=
  inferInstanceAs (Decidable (_ ∧ _))

theorem Apart.half {s t : Spot} (apart : s.Apart t) (first : s.Even)
    (second : t.Even) : s.half.Apart t.half := by
  unfold Even at first second
  unfold Apart at apart ⊢
  unfold Spot.half
  dsimp only
  omega

end Spot

namespace Plane

variable {p q : Plane} {s : Spot} {source : List α}
  {b b' : Buffer α capacity}

/-- What stands at `x`, `y` of a plane. -/
def sampleAt (p : Plane) (cells : List α) (x y : Nat) : Option α :=
  cells[p.base + (y * p.stride + x)]?

def Contains (p : Plane) (s : Spot) : Prop :=
  s.left + s.width ≤ p.stride ∧ s.top + s.rows ≤ p.rows

instance (p : Plane) (s : Spot) : Decidable (p.Contains s) :=
  inferInstanceAs (Decidable (_ ∧ _))

/-- Where a plane ends. -/
def last (p : Plane) : Nat :=
  p.base + p.rows * p.stride

/-- The first place of a picture, as an offset in the buffer. -/
def offset (p : Plane) (s : Spot) : Nat :=
  p.base + (s.top * p.stride + s.left)

theorem Contains.behind (contains : p.Contains s) :
    p.base + (s.top + s.rows) * p.stride ≤ p.last :=
  Nat.add_le_add_left (Nat.mul_le_mul_right _ contains.2) _

theorem sample_lt {x y : Nat} (inRow : x < p.stride) (inRows : y < p.rows) :
    p.base + (y * p.stride + x) < p.last := by
  have lastRow : (y + 1) * p.stride ≤ p.rows * p.stride :=
    Nat.mul_le_mul_right _ inRows
  rw [Nat.succ_mul] at lastRow
  unfold last
  omega

/-- A picture with enough entries can be copied to a place on a plane. -/
theorem exists_copyRows (contains : p.Contains s) (inBuffer : p.last ≤ capacity)
    (enough : s.rows * s.width ≤ source.length) (b : Buffer α capacity) :
    ∃ b', copyRows source s.width s.width p.stride s.rows 0 (p.offset s) b =
      some (b', p.offset s + s.rows * p.stride) := by
  apply copyRows_fits
  intro r within
  constructor
  · have row : (r + 1) * s.width ≤ s.rows * s.width :=
      Nat.mul_le_mul_right _ within
    rw [Nat.succ_mul] at row
    omega
  · have row : (s.top + (r + 1)) * p.stride ≤ (s.top + s.rows) * p.stride :=
      Nat.mul_le_mul_right _ (by omega)
    have behind := contains.behind
    have beside := contains.1
    rw [Nat.add_mul, Nat.succ_mul] at row
    unfold offset
    omega

/-- The picture is on the plane, and the rest of it is as before. -/
structure Paints (p : Plane) (s : Spot) (source before after : List α) :
    Prop where
  inside : ∀ x y, s.Covers x y →
    p.sampleAt after x y = s.entry source x y
  outside : ∀ x y, x < p.stride → y < p.rows → ¬ s.Covers x y →
    p.sampleAt after x y = p.sampleAt before x y

theorem copyRows_paints {place : Nat} (contains : p.Contains s)
    (copied : copyRows source s.width s.width p.stride s.rows 0 (p.offset s)
      b = some (b', place)) :
    p.Paints s source b.cells b'.cells where
  inside _ _ covers := copyRows_inPicture copied contains.1 covers
  outside _ _ inRow _ uncovered :=
    copyRows_notInPicture copied contains.1 inRow uncovered

/-- The other planes do not change. -/
theorem copyRows_sampleAt {place x y : Nat} (contains : p.Contains s)
    (copied : copyRows source s.width s.width p.stride s.rows 0 (p.offset s)
      b = some (b', place))
    (other : q.last ≤ p.base ∨ p.last ≤ q.base)
    (inRow : x < q.stride) (inRows : y < q.rows) :
    q.sampleAt b'.cells x y = q.sampleAt b.cells x y := by
  apply copyRows_otherPlane copied contains.1
  have within := sample_lt inRow inRows
  have behind := contains.behind
  omega

theorem Contains.covered (contains : p.Contains s) {x y : Nat}
    (covers : s.Covers x y) : x < p.stride ∧ y < p.rows := by
  unfold Contains at contains
  unfold Spot.Covers InPicture at covers
  omega

/-- What happens outside of a plane does not matter to it. -/
theorem Paints.congr {before before' after after' : List α}
    (paints : p.Paints s source before after) (contains : p.Contains s)
    (sameBefore : ∀ x y, x < p.stride → y < p.rows →
      p.sampleAt before x y = p.sampleAt before' x y)
    (sameAfter : ∀ x y, x < p.stride → y < p.rows →
      p.sampleAt after' x y = p.sampleAt after x y) :
    p.Paints s source before' after' := by
  constructor
  · intro x y covers
    obtain ⟨inRow, inRows⟩ := contains.covered covers
    rw [sameAfter x y inRow inRows]
    exact paints.inside x y covers
  · intro x y inRow inRows uncovered
    rw [sameAfter x y inRow inRows, ← sameBefore x y inRow inRows]
    exact paints.outside x y inRow inRows uncovered

/-- The pictures are on the plane, and the background is everywhere else. -/
structure Shows (p : Plane) (pictures : List (Spot × List α))
    (background : α) (cells : List α) : Prop where
  inside : ∀ s source, (s, source) ∈ pictures → ∀ x y, s.Covers x y →
    p.sampleAt cells x y = s.entry source x y
  outside : ∀ x y, x < p.stride → y < p.rows →
    (∀ s source, (s, source) ∈ pictures → ¬ s.Covers x y) →
    p.sampleAt cells x y = some background

/-- One more picture, apart from the others, leaves them as they are. -/
theorem Shows.paint {pictures : List (Spot × List α)} {background : α}
    {before after : List α} (shown : p.Shows pictures background before)
    (paints : p.Paints s source before after)
    (others : ∀ t other, (t, other) ∈ pictures → p.Contains t ∧ t.Apart s) :
    p.Shows (pictures ++ [(s, source)]) background after := by
  constructor
  · intro t other member x y covers
    rcases List.mem_append.mp member with earlier | new
    · obtain ⟨contains, apart⟩ := others t other earlier
      obtain ⟨inRow, inRows⟩ := contains.covered covers
      rw [paints.outside x y inRow inRows (apart.not_both covers)]
      exact shown.inside t other earlier x y covers
    · cases List.mem_singleton.mp new
      exact paints.inside x y covers
  · intro x y inRow inRows uncovered
    have here : ¬ s.Covers x y :=
      uncovered s source (List.mem_append_right _ (List.mem_singleton_self _))
    rw [paints.outside x y inRow inRows here]
    apply shown.outside x y inRow inRows
    intro t other member
    exact uncovered t other (List.mem_append_left _ member)

/-- A picture that fills the plane leaves no background. -/
theorem Paints.fill {background : α} {before after : List α}
    (paints : p.Paints s source before after)
    (whole : s = ⟨0, 0, p.stride, p.rows⟩) :
    p.Shows [(s, source)] background after := by
  constructor
  · intro t other member x y covers
    cases List.mem_singleton.mp member
    exact paints.inside x y covers
  · intro x y inRow inRows uncovered
    refine absurd ?_ (uncovered s source (List.mem_singleton_self _))
    rw [whole]
    refine ⟨Nat.zero_le _, ?_, Nat.zero_le _, ?_⟩
    · rw [Nat.zero_add]
      exact inRow
    · rw [Nat.zero_add]
      exact inRows

theorem Shows.congr {pictures : List (Spot × List α)} {background : α}
    {cells cells' : List α} (shown : p.Shows pictures background cells)
    (contained : ∀ t other, (t, other) ∈ pictures → p.Contains t)
    (same : ∀ x y, x < p.stride → y < p.rows →
      p.sampleAt cells' x y = p.sampleAt cells x y) :
    p.Shows pictures background cells' := by
  constructor
  · intro t other member x y covers
    obtain ⟨inRow, inRows⟩ := (contained t other member).covered covers
    rw [same x y inRow inRows]
    exact shown.inside t other member x y covers
  · intro x y inRow inRows uncovered
    rw [same x y inRow inRows]
    exact shown.outside x y inRow inRows uncovered

/-- Fill a plane, and what is around it, with the background. -/
theorem write_background {start count : Nat} {background : α}
    (written : b.write start (List.replicate count background) = some b')
    (before : start ≤ p.base) (behind : p.last ≤ start + count) :
    p.Shows [] background b'.cells := by
  constructor
  · intro t other member
    cases member
  · intro x y inRow inRows _
    have within := sample_lt inRow inRows
    obtain ⟨j, place⟩ := Nat.exists_eq_add_of_le
      (show start ≤ p.base + (y * p.stride + x) by omega)
    have inside : j < count := by omega
    rw [sampleAt, place, getElem?_write written
      (by rw [List.length_replicate]; exact inside), List.getElem?_replicate,
      if_pos inside]

theorem write_sampleAt {start x y : Nat} {data : List α}
    (written : b.write start data = some b') (before : p.last ≤ start)
    (inRow : x < p.stride) (inRows : y < p.rows) :
    p.sampleAt b'.cells x y = p.sampleAt b.cells x y := by
  have within := sample_lt inRow inRows
  exact getElem?_write_of_outside written (Or.inl (by omega))

end Plane

end GroupVoip.Library.Planes
