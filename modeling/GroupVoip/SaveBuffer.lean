import GroupVoip.CodecInfo
import GroupVoip.Library.Loops
import GroupVoip.Library.Planes

/-!
# saveBuffer

The rendered picture stands upside down, so its rows are copied in reverse
order, with the red and the blue channel exchanged.  The rows are counted from
one behind the last, which is outside of the buffer.
-/

namespace GroupVoip

open Library.Buffers Library.Loops Library.Planes Library.Runs

/-! ## The copy -/

namespace SaveBuffer

def copyPixel {size : Nat} (buffer : Bytes) (srcWidth srcHeight i : Nat)
    (image : Buffer UInt8 size) (j : Nat) :
    Except Abort (Buffer UInt8 size) := do
  let src := ((srcHeight - i) * srcWidth + j) * 4
  let dst := (i * srcWidth + j) * 4
  let third ← inBounds buffer[src + 2]?
  let second ← inBounds buffer[src + 1]?
  let first ← inBounds buffer[src]?
  let fourth ← inBounds buffer[src + 3]?
  inBounds (image.write dst [third, second, first, fourth])

def copyRow {size : Nat} (buffer : Bytes) (srcWidth srcHeight : Nat)
    (image : Buffer UInt8 size) (i : Nat) : Except Abort (Buffer UInt8 size) :=
  run (copyPixel buffer srcWidth srcHeight i) image (List.range srcWidth)

end SaveBuffer

/-- The picture that `saveBuffer` hands to the image library.  `memory` is
what the block from `malloc` held before, if there was one, and the size of
the block is an `int`. -/
def saveBuffer (memory : Option (Nat → UInt8)) (buffer : Bytes)
    (srcWidth srcHeight : Nat) : Except Abort (Option Bytes) :=
  if srcWidth * srcHeight * 4 < 2147483648 then
    match memory with
    | some held => do
        let image ← run (SaveBuffer.copyRow buffer srcWidth srcHeight)
          (Buffer.fresh held (srcWidth * srcHeight * 4)) (List.range srcHeight)
        return some image.cells
    | none => .ok none
  else .error .undefinedBehaviour

namespace SaveBuffer

/-! ## Pixels -/

structure Pixel where
  first : UInt8
  second : UInt8
  third : UInt8
  fourth : UInt8
deriving DecidableEq, Repr

/-- The pixel with the first and the third channel exchanged. -/
def Pixel.exchange (p : Pixel) : Pixel where
  first := p.third
  second := p.second
  third := p.first
  fourth := p.fourth

theorem Pixel.exchange_exchange (p : Pixel) : p.exchange.exchange = p :=
  rfl

def pixelAt (cells : Bytes) (k : Nat) : Option Pixel := do
  let first ← cells[k * 4]?
  let second ← cells[k * 4 + 1]?
  let third ← cells[k * 4 + 2]?
  let fourth ← cells[k * 4 + 3]?
  return ⟨first, second, third, fourth⟩

theorem pixelAt_eq_some {cells : Bytes} {k : Nat} {p : Pixel} :
    pixelAt cells k = some p ↔
      cells[k * 4]? = some p.first ∧ cells[k * 4 + 1]? = some p.second ∧
        cells[k * 4 + 2]? = some p.third ∧
        cells[k * 4 + 3]? = some p.fourth := by
  unfold pixelAt
  constructor
  · intro isPixel
    obtain ⟨first, isFirst, rest⟩ := Option.bind_eq_some_iff.mp isPixel
    obtain ⟨second, isSecond, rest⟩ := Option.bind_eq_some_iff.mp rest
    obtain ⟨third, isThird, rest⟩ := Option.bind_eq_some_iff.mp rest
    obtain ⟨fourth, isFourth, rest⟩ := Option.bind_eq_some_iff.mp rest
    cases rest
    exact ⟨isFirst, isSecond, isThird, isFourth⟩
  · intro channels
    obtain ⟨isFirst, isSecond, isThird, isFourth⟩ := channels
    rw [isFirst, isSecond, isThird, isFourth]
    rfl

theorem exists_pixelAt {cells : Bytes} {k : Nat}
    (inside : (k + 1) * 4 ≤ cells.length) : ∃ p, pixelAt cells k = some p := by
  refine ⟨⟨cells[k * 4], cells[k * 4 + 1], cells[k * 4 + 2],
    cells[k * 4 + 3]⟩, pixelAt_eq_some.mpr ⟨?_, ?_, ?_, ?_⟩⟩
  · exact List.getElem?_eq_getElem _
  · exact List.getElem?_eq_getElem _
  · exact List.getElem?_eq_getElem _
  · exact List.getElem?_eq_getElem _

/-- The flipped picture, row by row and column by column. -/
structure Flipped (srcWidth srcHeight : Nat) (buffer image : Bytes) :
    Prop where
  size : image.length = srcWidth * srcHeight * 4
  pixels : ∀ i j, i < srcHeight → j < srcWidth →
    pixelAt image (i * srcWidth + j) =
      (pixelAt buffer ((srcHeight - 1 - i) * srcWidth + j)).map
        Pixel.exchange

/-- Flipping a picture twice gives the picture back. -/
theorem Flipped.twice {srcWidth srcHeight : Nat} {buffer image back : Bytes}
    (first : Flipped srcWidth srcHeight buffer image)
    (second : Flipped srcWidth srcHeight image back) :
    ∀ i j, i < srcHeight → j < srcWidth →
      pixelAt back (i * srcWidth + j) = pixelAt buffer (i * srcWidth + j) := by
  intro i j inRows inRow
  have opposite : srcHeight - 1 - (srcHeight - 1 - i) = i := by omega
  rw [second.pixels i j inRows inRow,
    first.pixels (srcHeight - 1 - i) j (by omega) inRow, opposite,
    Option.map_map]
  cases pixelAt buffer (i * srcWidth + j) with
  | none => rfl
  | some p => rfl

/-! ## The copy of a pixel -/

section Copy

variable {size srcWidth srcHeight i j : Nat} {buffer : Bytes}
  {image : Buffer UInt8 size}

/-- A pixel that is in the buffer is copied, and the pixels before its place
stay as they are. -/
theorem copyPixel_ok {p : Pixel}
    (isPixel : pixelAt buffer ((srcHeight - i) * srcWidth + j) = some p)
    (room : (i * srcWidth + j + 1) * 4 ≤ size) :
    ∃ image', copyPixel buffer srcWidth srcHeight i image j = .ok image' ∧
      pixelAt image'.cells (i * srcWidth + j) = some p.exchange ∧
      ∀ k, k < i * srcWidth + j →
        pixelAt image'.cells k = pixelAt image.cells k := by
  obtain ⟨isFirst, isSecond, isThird, isFourth⟩ := pixelAt_eq_some.mp isPixel
  obtain ⟨image', written⟩ := image.exists_write ((i * srcWidth + j) * 4)
    [p.third, p.second, p.first, p.fourth]
    (by simp only [List.length_cons, List.length_nil]; omega)
  refine ⟨image', ?_, ?_, ?_⟩
  · refine bind_ok.mpr ⟨p.third, congrArg inBounds isThird, ?_⟩
    refine bind_ok.mpr ⟨p.second, congrArg inBounds isSecond, ?_⟩
    refine bind_ok.mpr ⟨p.first, congrArg inBounds isFirst, ?_⟩
    refine bind_ok.mpr ⟨p.fourth, congrArg inBounds isFourth, ?_⟩
    exact congrArg inBounds written
  · have channel (c : Nat) (within : c < 4) :=
      getElem?_write written (j := c) within
    exact pixelAt_eq_some.mpr ⟨channel 0 (by decide), channel 1 (by decide),
      channel 2 (by decide), channel 3 (by decide)⟩
  · intro k before
    have kept (c : Nat) (within : c < 4) :
        image'.cells[k * 4 + c]? = image.cells[k * 4 + c]? :=
      getElem?_write_of_outside written (Or.inl (by omega))
    unfold pixelAt
    rw [kept 1 (by decide), kept 2 (by decide), kept 3 (by decide)]
    have first := kept 0 (by decide)
    rw [Nat.add_zero] at first
    rw [first]

/-- The first `count` pixels of the image are those of the rows below. -/
def Copied (buffer : Bytes) (srcWidth srcHeight count : Nat)
    (image : Bytes) : Prop :=
  ∀ i j, j < srcWidth → i * srcWidth + j < count →
    pixelAt image (i * srcWidth + j) =
      (pixelAt buffer ((srcHeight - i) * srcWidth + j)).map Pixel.exchange

/-- Places in different rows or columns are different. -/
theorem place_inj {w i j k l : Nat} (inRow : j < w) (inRowToo : l < w)
    (same : i * w + j = k * w + l) : i = k ∧ j = l := by
  have rows (a b : Nat) (small : b < w) : (a * w + b) / w = a := by
    rw [Nat.add_comm, Nat.mul_comm, Nat.add_mul_div_left _ _ (by omega),
      Nat.div_eq_of_lt small, Nat.zero_add]
  have sameRow : i = k := by
    rw [← rows i j inRow, ← rows k l inRowToo, same]
  subst sameRow
  exact ⟨rfl, by omega⟩

theorem copyRow_ok (isSize : size = srcWidth * srcHeight * 4)
    (long : (srcHeight + 1) * srcWidth * 4 ≤ buffer.length)
    (inRows : i < srcHeight)
    (copied : Copied buffer srcWidth srcHeight (i * srcWidth) image.cells) :
    ∃ image', copyRow buffer srcWidth srcHeight image i = .ok image' ∧
      Copied buffer srcWidth srcHeight ((i + 1) * srcWidth) image'.cells := by
  have rowEnd : (i + 1) * srcWidth ≤ srcHeight * srcWidth :=
    Nat.mul_le_mul_right _ inRows
  have sourceEnd : (srcHeight - i + 1) * srcWidth ≤
      (srcHeight + 1) * srcWidth := Nat.mul_le_mul_right _ (by omega)
  rw [Nat.succ_mul] at rowEnd sourceEnd
  have turn : ∀ j image, j < srcWidth →
      Copied buffer srcWidth srcHeight (i * srcWidth + j)
        (image : Buffer UInt8 size).cells →
      ∃ image', copyPixel buffer srcWidth srcHeight i image j = .ok image' ∧
        Copied buffer srcWidth srcHeight (i * srcWidth + (j + 1))
          image'.cells := by
    intro j image inRow before
    have inside : ((srcHeight - i) * srcWidth + j + 1) * 4 ≤
        buffer.length := by
      omega
    have room : (i * srcWidth + j + 1) * 4 ≤ size := by
      rw [isSize, Nat.mul_comm srcWidth]
      omega
    obtain ⟨p, isPixel⟩ := exists_pixelAt inside
    obtain ⟨image', done, here, others⟩ :=
      @copyPixel_ok size srcWidth srcHeight i j buffer image p isPixel room
    refine ⟨image', done, ?_⟩
    intro k l inRowToo earlier
    by_cases same : k * srcWidth + l = i * srcWidth + j
    · obtain ⟨sameRow, sameColumn⟩ := place_inj inRowToo inRow same
      rw [sameRow, sameColumn, here, isPixel]
      rfl
    · rw [others _ (by omega)]
      exact before k l inRowToo (by omega)
  have looped := run_upward
    (fun j image => Copied buffer srcWidth srcHeight (i * srcWidth + j)
      (image : Buffer UInt8 size).cells) turn srcWidth image le_rfl copied
  rw [← Nat.succ_mul] at looped
  exact looped

end Copy

/-! ## saveBuffer -/

variable {srcWidth srcHeight : Nat} {buffer : Bytes}

/-- With a further row behind the buffer the copy goes through, and it takes
every row from one row too far below. -/
theorem saveBuffer_furtherRow (held : Nat → UInt8)
    (long : (srcHeight + 1) * srcWidth * 4 ≤ buffer.length)
    (isInt : srcWidth * srcHeight * 4 < 2147483648) :
    ∃ image, saveBuffer (some held) buffer srcWidth srcHeight =
        .ok (some image) ∧
      image.length = srcWidth * srcHeight * 4 ∧
      ∀ i j, i < srcHeight → j < srcWidth →
        pixelAt image (i * srcWidth + j) =
          (pixelAt buffer ((srcHeight - i) * srcWidth + j)).map
            Pixel.exchange := by
  have turn : ∀ i (image : Buffer UInt8 (srcWidth * srcHeight * 4)),
      i < srcHeight →
      Copied buffer srcWidth srcHeight (i * srcWidth) image.cells →
      ∃ image', copyRow buffer srcWidth srcHeight image i = .ok image' ∧
        Copied buffer srcWidth srcHeight ((i + 1) * srcWidth)
          image'.cells :=
    fun _ _ inRows copied => copyRow_ok rfl long inRows copied
  obtain ⟨image, looped, copied⟩ := run_upward
    (fun i (image : Buffer UInt8 (srcWidth * srcHeight * 4)) =>
      Copied buffer srcWidth srcHeight (i * srcWidth) image.cells) turn
    srcHeight (Buffer.fresh held (srcWidth * srcHeight * 4)) le_rfl (by
      intro i j _ before
      rw [Nat.zero_mul] at before
      exact absurd before (Nat.not_lt_zero _))
  refine ⟨image.cells, ?_, image.length_eq, ?_⟩
  · rw [saveBuffer, if_pos isInt]
    exact bind_ok.mpr ⟨image, looped, rfl⟩
  · intro i j inRows inRow
    have lastRow : (i + 1) * srcWidth ≤ srcHeight * srcWidth :=
      Nat.mul_le_mul_right _ inRows
    rw [Nat.succ_mul] at lastRow
    exact copied i j inRow (by omega)

/-- The first pixel is read behind the buffer. -/
theorem saveBuffer_outOfBounds (held : Nat → UInt8) (isWidth : 0 < srcWidth)
    (isHeight : 0 < srcHeight)
    (isBuffer : buffer.length = srcWidth * srcHeight * 4) :
    saveBuffer (some held) buffer srcWidth srcHeight =
      .error .undefinedBehaviour := by
  unfold saveBuffer
  split
  · have outside : buffer[((srcHeight - 0) * srcWidth + 0) * 4 + 2]? =
        none := by
      apply List.getElem?_eq_none
      rw [isBuffer, Nat.sub_zero, Nat.add_zero, Nat.mul_comm srcWidth]
      omega
    have pixel : copyPixel buffer srcWidth srcHeight 0
        (Buffer.fresh held (srcWidth * srcHeight * 4)) 0 =
          .error .undefinedBehaviour := by
      unfold copyPixel
      dsimp only
      rw [outside]
      rfl
    obtain ⟨columns, isColumns⟩ :=
      Nat.exists_eq_succ_of_ne_zero isWidth.ne'
    obtain ⟨rows, isRows⟩ := Nat.exists_eq_succ_of_ne_zero isHeight.ne'
    have row : copyRow buffer srcWidth srcHeight
        (Buffer.fresh held (srcWidth * srcHeight * 4)) 0 =
          .error .undefinedBehaviour := by
      have columnsList : List.range srcWidth =
          0 :: (List.range columns).map Nat.succ := by
        rw [isColumns, List.range_succ_eq_map]
      rw [copyRow, columnsList, run_cons, pixel]
      rfl
    have rowsList : List.range srcHeight =
        0 :: (List.range rows).map Nat.succ := by
      rw [isRows, List.range_succ_eq_map]
    dsimp only
    rw [rowsList, run_cons, row]
    rfl
  · rfl

/-- No picture is ever flipped, whether there was memory for it or not. -/
theorem saveBuffer_never_flips (memory : Option (Nat → UInt8))
    (isWidth : 0 < srcWidth) (isHeight : 0 < srcHeight)
    (isBuffer : buffer.length = srcWidth * srcHeight * 4) :
    ¬ ∃ image, saveBuffer memory buffer srcWidth srcHeight =
        .ok (some image) ∧
      Flipped srcWidth srcHeight buffer image := by
  intro flips
  obtain ⟨image, saved, _⟩ := flips
  cases memory with
  | some held =>
      rw [saveBuffer_outOfBounds held isWidth isHeight isBuffer] at saved
      cases saved
  | none =>
      unfold saveBuffer at saved
      split at saved
      · cases saved
      · cases saved

theorem saveBuffer_never_flips_pixel :
    ¬ ∃ image, saveBuffer (some fun _ => 0) [10, 20, 30, 255] 1 1 =
        .ok (some image) ∧
      Flipped 1 1 [10, 20, 30, 255] image :=
  saveBuffer_never_flips (some fun _ => 0) (by decide) (by decide) rfl

/-- A picture of one pixel is read behind its end. -/
theorem saveBuffer_pixel_outOfBounds :
    ¬ ∀ (srcWidth srcHeight : Nat) (buffer : Bytes) (held : Nat → UInt8),
      0 < srcWidth → 0 < srcHeight →
      buffer.length = srcWidth * srcHeight * 4 →
      ∃ image, saveBuffer (some held) buffer srcWidth srcHeight =
          .ok (some image) ∧
        Flipped srcWidth srcHeight buffer image := by
  intro flips
  obtain ⟨image, saved, _⟩ := flips 1 1 [10, 20, 30, 255] (fun _ => 0)
    (by decide) (by decide) rfl
  have stopped : saveBuffer (some fun _ => 0) [10, 20, 30, 255] 1 1 =
      .error .undefinedBehaviour := rfl
  rw [stopped] at saved
  cases saved

end SaveBuffer

end GroupVoip
