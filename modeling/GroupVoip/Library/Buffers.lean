import Mathlib.Tactic.Common

/-!
# Buffers of fixed capacity

A block of memory of a fixed size.  A read or a write that does not fit in the
block gives nothing.
-/

namespace GroupVoip.Library.Buffers

variable {α : Type} {capacity : Nat}

structure Buffer (α : Type) (capacity : Nat) where
  cells : List α
  length_eq : cells.length = capacity

namespace Buffer

/-- A new block, with what its memory held before. -/
def fresh (held : Nat → α) (capacity : Nat) : Buffer α capacity where
  cells := (List.range capacity).map held
  length_eq := by rw [List.length_map, List.length_range]

def read (b : Buffer α capacity) (start count : Nat) : Option (List α) :=
  if start + count ≤ capacity then some ((b.cells.drop start).take count)
  else none

def write (b : Buffer α capacity) (start : Nat) (data : List α) :
    Option (Buffer α capacity) :=
  if fits : start + data.length ≤ capacity then
    some
      { cells := b.cells.take start ++ data ++
          b.cells.drop (start + data.length)
        length_eq := by
          have length_eq := b.length_eq
          simp only [List.length_append, List.length_take, List.length_drop]
          omega }
  else none

theorem read_of_le {b : Buffer α capacity} {start count : Nat}
    (fits : start + count ≤ capacity) :
    b.read start count = some ((b.cells.drop start).take count) :=
  if_pos fits

theorem exists_write (b : Buffer α capacity) (start : Nat) (data : List α)
    (fits : start + data.length ≤ capacity) :
    ∃ b', b.write start data = some b' :=
  ⟨_, dif_pos fits⟩

theorem write_eq_some {b b' : Buffer α capacity} {start : Nat}
    {data : List α} (written : b.write start data = some b') :
    start + data.length ≤ capacity ∧
      b'.cells = b.cells.take start ++ data ++
        b.cells.drop (start + data.length) := by
  unfold write at written
  split at written
  · rename_i fits
    cases written
    exact ⟨fits, rfl⟩
  · cases written

theorem mem_write {b b' : Buffer α capacity} {start : Nat} {data : List α}
    (written : b.write start data = some b') {x : α} (member : x ∈ b'.cells) :
    x ∈ b.cells ∨ x ∈ data := by
  rw [(write_eq_some written).2, List.mem_append, List.mem_append] at member
  rcases member with (before | isNew) | after
  · exact Or.inl (List.mem_of_mem_take before)
  · exact Or.inr isNew
  · exact Or.inl (List.mem_of_mem_drop after)

/-- What is written stands behind what stood before it. -/
theorem take_write {b b' : Buffer α capacity} {start : Nat} {data : List α}
    (written : b.write start data = some b') :
    b'.cells.take (start + data.length) = b.cells.take start ++ data := by
  obtain ⟨fits, cells⟩ := write_eq_some written
  have length_eq := b.length_eq
  have front : (b.cells.take start ++ data).length = start + data.length := by
    simp only [List.length_append, List.length_take]
    omega
  rw [cells, ← front, List.take_left]

/-- What stood behind what is written still stands behind it. -/
theorem drop_write {b b' : Buffer α capacity} {start : Nat} {data : List α}
    (written : b.write start data = some b') :
    b'.cells.drop start = data ++ b.cells.drop (start + data.length) := by
  obtain ⟨fits, cells⟩ := write_eq_some written
  have length_eq := b.length_eq
  have front : (b.cells.take start).length = start := by
    rw [List.length_take]
    omega
  rw [cells, List.append_assoc, List.drop_left' front]

theorem read_write_zero {b b' : Buffer α capacity} {data : List α}
    {start count : Nat} (written : b.write 0 data = some b')
    (within : start + count ≤ data.length) :
    b'.read start count = some ((data.drop start).take count) := by
  obtain ⟨fits, cells⟩ := write_eq_some written
  have front := take_write written
  simp only [List.take_zero, List.nil_append, Nat.zero_add] at front
  rw [read_of_le (by omega), ← front, List.drop_take, List.take_take]
  congr 2
  omega

end Buffer

end GroupVoip.Library.Buffers
