import Mathlib.Algebra.BigOperators.Group.List.Basic
import Mathlib.Algebra.Ring.Nat
import Mathlib.Logic.Relation

/-!
# Tables of objects that refer to one another

A table has one cell for each address, empty or with an object.  Quantities
that add up over the objects change by what is put into one cell.  Where
references only lead downwards, everything that something refers to is
reached from a root.
-/

namespace GroupVoip.Library.ObjectGraph

variable {β : Type}

/-- The object at an address. -/
def cell (table : List (Option β)) (a : Nat) : Option β :=
  table[a]?.join

theorem cell_cons_zero (head : Option β) (tail : List (Option β)) :
    cell (head :: tail) 0 = head := by
  cases head with
  | none => rfl
  | some object => rfl

theorem cell_cons_succ (head : Option β) (tail : List (Option β)) (a : Nat) :
    cell (head :: tail) (a + 1) = cell tail a :=
  rfl

theorem lt_length_of_cell {table : List (Option β)} {a : Nat} {object : β}
    (here : cell table a = some object) : a < table.length := by
  by_cases inside : a < table.length
  · exact inside
  · rw [cell, List.getElem?_eq_none (by omega)] at here
    cases here

@[simp]
theorem cell_set_self {table : List (Option β)} {a : Nat}
    (inside : a < table.length) (x : Option β) :
    cell (table.set a x) a = x := by
  rw [cell, List.getElem?_set_self inside]
  cases x with
  | none => rfl
  | some object => rfl

@[simp]
theorem cell_set_ne {table : List (Option β)} {a b : Nat} (other : b ≠ a)
    (x : Option β) : cell (table.set a x) b = cell table b := by
  rw [cell, cell, List.getElem?_set_ne (Ne.symm other)]

@[simp]
theorem cell_set_none (table : List (Option β)) (a : Nat) :
    cell (table.set a none) a = none := by
  by_cases inside : a < table.length
  · exact cell_set_self inside none
  · rw [cell, List.getElem?_eq_none (by simpa using inside)]
    rfl

theorem cell_replicate (count a : Nat) :
    cell (List.replicate count (none : Option β)) a = none := by
  rw [cell, List.getElem?_replicate]
  split <;> rfl

/-! ## Sums over the objects -/

def weigh (weight : β → Nat) : Option β → Nat
  | none => 0
  | some object => weight object

def total (weight : β → Nat) (table : List (Option β)) : Nat :=
  (table.map (weigh weight)).sum

/-- Putting something into a cell changes the sum by that cell alone. -/
theorem total_set (weight : β → Nat) {table : List (Option β)} {a : Nat}
    (inside : a < table.length) (x : Option β) :
    total weight (table.set a x) + weigh weight (cell table a) =
      total weight table + weigh weight x := by
  induction table generalizing a with
  | nil => cases inside
  | cons head tail inductionHypothesis =>
      cases a with
      | zero =>
          rw [List.set_cons_zero, cell_cons_zero, total, total, List.map_cons,
            List.map_cons, List.sum_cons, List.sum_cons]
          omega
      | succ a =>
          have later := inductionHypothesis (Nat.lt_of_succ_lt_succ inside)
          rw [total, total] at later
          rw [List.set_cons_succ, cell_cons_succ, total, total, List.map_cons,
            List.map_cons, List.sum_cons, List.sum_cons]
          omega

theorem weigh_le_total (weight : β → Nat) (table : List (Option β))
    (a : Nat) : weigh weight (cell table a) ≤ total weight table := by
  by_cases inside : a < table.length
  · have emptied := total_set weight inside none
    have nothing : weigh weight (none : Option β) = 0 := rfl
    omega
  · rw [cell, List.getElem?_eq_none (by omega)]
    exact Nat.zero_le _

theorem total_replicate (weight : β → Nat) (count : Nat) :
    total weight (List.replicate count none) = 0 := by
  rw [total, List.map_replicate, List.sum_replicate]
  exact Nat.mul_zero _

/-- A sum that is not zero has an object with a part in it. -/
theorem exists_of_total_pos (weight : β → Nat) (table : List (Option β))
    (positive : 0 < total weight table) :
    ∃ a object, cell table a = some object ∧ 0 < weight object := by
  induction table with
  | nil => cases positive
  | cons head tail inductionHypothesis =>
      rw [total, List.map_cons, List.sum_cons] at positive
      by_cases here : 0 < weigh weight head
      · cases head with
        | none => cases here
        | some object => exact ⟨0, object, rfl, here⟩
      · obtain ⟨a, object, there, part⟩ :=
          inductionHypothesis (by rw [total]; omega)
        exact ⟨a + 1, object, there, part⟩

/-! ## What the roots reach -/

/-- `a` is a root or can be reached from one. -/
def Reached (root : Nat → Prop) (refers : Nat → Nat → Prop) (a : Nat) : Prop :=
  ∃ r, root r ∧ Relation.ReflTransGen refers r a

/-- What is reached is in a set that has the roots and is closed. -/
theorem Reached.mem {root : Nat → Prop} {refers : Nat → Nat → Prop}
    {a : Nat} (reached : Reached root refers a) {P : Nat → Prop}
    (roots : ∀ r, root r → P r)
    (closed : ∀ b c, P b → refers b c → P c) : P a := by
  obtain ⟨r, isRoot, path⟩ := reached
  induction path with
  | refl => exact roots r isRoot
  | tail _ last inductionHypothesis => exact closed _ _ inductionHypothesis last

/-- Objects that only refer downwards, each of them a root or referred to by
another one, are all reached. -/
theorem reached_of_ranked {root : Nat → Prop} {refers : Nat → Nat → Prop}
    (P : Nat → Prop) (rank : Nat → Nat) (bound : Nat)
    (bounded : ∀ a, P a → rank a ≤ bound)
    (downwards : ∀ a b, P a → refers a b → rank b < rank a)
    (held : ∀ a, P a → root a ∨ ∃ b, P b ∧ refers b a) {a : Nat}
    (member : P a) : Reached root refers a := by
  induction height : bound - rank a using Nat.strongRecOn generalizing a with
  | ind n inductionHypothesis =>
      rcases held a member with isRoot | ⟨b, memberB, refersTo⟩
      · exact ⟨a, isRoot, .refl⟩
      · have above := downwards b a memberB refersTo
        have below := bounded b memberB
        obtain ⟨r, isRoot, path⟩ :=
          inductionHypothesis (bound - rank b) (by omega) memberB rfl
        exact ⟨r, isRoot, path.tail refersTo⟩

end GroupVoip.Library.ObjectGraph
