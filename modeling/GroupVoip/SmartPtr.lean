import GroupVoip.Library.ObjectGraph
import GroupVoip.Library.Runs

/-!
# Reference counting

`SmartPtr<T>` counts the pointers to an object in the object itself, which
deletes itself with the last of them; the smart pointers among its members are
destroyed with it.  Run from an empty memory, the operations of `SmartPtr`
never touch an object that was deleted, and what is in memory is what the
variables reach.
-/

namespace GroupVoip

open Library.Runs Library.ObjectGraph

/-- The classes of a program: the classes of the smart pointers among the
members of each, which are of smaller height. -/
structure Classes (C : Type) where
  members : C → List C
  height : C → Nat
  bound : Nat
  height_le : ∀ c, height c ≤ bound
  height_lt : ∀ c d, d ∈ members c → height d < height c

/-- An object that inherits from `SmartPtrInterface`, with what its smart
pointers point to. -/
structure CountedObject (C : Type) where
  cls : C
  ref_ : Nat
  members : List (Option Nat)
deriving DecidableEq, Repr

/-- The memory has as many cells as the table.  A cell is empty from the
moment at which the destructor of its object starts. -/
abbrev Heap (C : Type) := List (Option (CountedObject C))

inductive PointerFault where
  | useAfterFree
  | countUnderflow
  | stackOverflow
  | nullDereference
  | outOfScope
  | illTyped
  | cellInUse
deriving DecidableEq, Repr

namespace Heap

variable {C : Type}

/-- The constructor of `SmartPtrInterface` sets `ref_` to 0, and those of
the members their pointers to null. -/
def newObject (classes : Classes C) (c : C) : CountedObject C where
  cls := c
  ref_ := 0
  members := List.replicate (classes.members c).length none

def newRef (a : Nat) (heap : Heap C) : Except PointerFault (Heap C) :=
  match cell heap a with
  | none => .error .useAfterFree
  | some object =>
      .ok (heap.set a (some { object with ref_ := object.ref_ + 1 }))

/-- The destructors of the smart pointers of a list. -/
def destroyAll (deleteRef : Nat → Heap C → Except PointerFault (Heap C)) :
    List (Option Nat) → Heap C → Except PointerFault (Heap C)
  | [], heap => .ok heap
  | none :: rest, heap => destroyAll deleteRef rest heap
  | some a :: rest, heap =>
      (deleteRef a heap).bind (destroyAll deleteRef rest)

/-- `deleteRef` with a bound on the depth of the calls.  With the last
reference gone `delete this` destroys the members in reverse order. -/
def deleteRef : Nat → Nat → Heap C → Except PointerFault (Heap C)
  | 0, _, _ => .error .stackOverflow
  | depth + 1, a, heap =>
      match cell heap a with
      | none => .error .useAfterFree
      | some object =>
          match object.ref_ with
          | 0 => .error .countUnderflow
          | 1 => destroyAll (deleteRef depth) object.members.reverse
              (heap.set a none)
          | ref + 2 =>
              .ok (heap.set a (some { object with ref_ := ref + 1 }))

theorem deleteRef_last {depth a : Nat} {heap : Heap C}
    {object : CountedObject C} (here : cell heap a = some object)
    (last : object.ref_ = 1) :
    deleteRef (depth + 1) a heap =
      destroyAll (deleteRef depth) object.members.reverse
        (heap.set a none) := by
  obtain ⟨cls, ref_, members⟩ := object
  cases last
  rw [deleteRef, here]

theorem deleteRef_more {depth a ref : Nat} {heap : Heap C}
    {object : CountedObject C} (here : cell heap a = some object)
    (more : object.ref_ = ref + 2) :
    deleteRef (depth + 1) a heap =
      .ok (heap.set a (some { object with ref_ := ref + 1 })) := by
  obtain ⟨cls, ref_, members⟩ := object
  cases more
  rw [deleteRef, here]

/-- What a call that returns has done. -/
theorem deleteRef_ok {depth a : Nat} {heap next : Heap C}
    (deleted : deleteRef (depth + 1) a heap = .ok next) :
    ∃ object, cell heap a = some object ∧
      ((object.ref_ = 1 ∧
        destroyAll (deleteRef depth) object.members.reverse
          (heap.set a none) = .ok next) ∨
      ∃ ref, object.ref_ = ref + 2 ∧
        next = heap.set a (some { object with ref_ := ref + 1 })) := by
  cases here : cell heap a with
  | none =>
      rw [deleteRef, here] at deleted
      cases deleted
  | some object =>
      refine ⟨object, rfl, ?_⟩
      match count : object.ref_ with
      | 0 =>
          obtain ⟨cls, ref_, members⟩ := object
          cases count
          rw [deleteRef, here] at deleted
          cases deleted
      | 1 =>
          rw [deleteRef_last here count] at deleted
          exact .inl ⟨rfl, deleted⟩
      | ref + 2 =>
          rw [deleteRef_more here count, Except.ok.injEq] at deleted
          exact .inr ⟨ref, rfl, deleted.symm⟩

end Heap

/-! ## The operations of `SmartPtr` -/

/-- A smart pointer that can be assigned to: a variable or a member of what a
variable points to. -/
inductive Place where
  | var (i : Nat)
  | member (i k : Nat)
deriving DecidableEq, Repr

/-- What a smart pointer is made from.  The allocator answers `new` with an
empty cell. -/
inductive PointerSource (C : Type) where
  | null
  | copy (place : Place)
  | new (c : C) (a : Nat)
deriving DecidableEq, Repr

inductive PointerStep (C : Type) where
  | construct (c : C) (source : PointerSource C)
  | assign (place : Place) (source : PointerSource C)
  | destroy (i : Nat)
deriving DecidableEq, Repr

structure Memory (C : Type) where
  heap : Heap C
  vars : List (C × Option Nat)
deriving DecidableEq, Repr

namespace Memory

variable {C : Type}

def start (C : Type) (capacity : Nat) : Memory C :=
  ⟨List.replicate capacity none, []⟩

/-- What the variables point to. -/
def held (m : Memory C) : List (Option Nat) :=
  m.vars.map Prod.snd

/-- `ptr_` of a smart pointer. -/
def ptr (m : Memory C) : Place → Except PointerFault (Option Nat)
  | .var i =>
      match m.vars[i]? with
      | none => .error .outOfScope
      | some (_, pointer) => .ok pointer
  | .member i k =>
      match m.vars[i]? with
      | none => .error .outOfScope
      | some (_, none) => .error .nullDereference
      | some (_, some a) =>
          match cell m.heap a with
          | none => .error .useAfterFree
          | some object =>
              match object.members[k]? with
              | none => .error .illTyped
              | some pointer => .ok pointer

def setPtr (m : Memory C) (pointer : Option Nat) :
    Place → Except PointerFault (Memory C)
  | .var i =>
      match m.vars[i]? with
      | none => .error .outOfScope
      | some (c, _) =>
          .ok { m with vars := m.vars.set i (c, pointer) }
  | .member i k =>
      match m.vars[i]? with
      | none => .error .outOfScope
      | some (_, none) => .error .nullDereference
      | some (_, some a) =>
          match cell m.heap a with
          | none => .error .useAfterFree
          | some object =>
              .ok { m with
                heap := m.heap.set a
                  (some { object with
                    members := object.members.set k pointer }) }

/-- `if (a) a->newRef();` -/
def newRef (m : Memory C) : Option Nat → Except PointerFault (Memory C)
  | none => .ok m
  | some a => (Heap.newRef a m.heap).map fun heap => { m with heap := heap }

/-- `if (ptr_) ptr_->deleteRef();` -/
def deleteRef (m : Memory C) : Option Nat → Except PointerFault (Memory C)
  | none => .ok m
  | some a =>
      (Heap.deleteRef (m.heap.length + 1) a m.heap).map fun heap =>
        { m with heap := heap }

variable [DecidableEq C] (classes : Classes C) (m : Memory C)

/-- The `T` of a `SmartPtr<T>`. -/
def classAt : Place → Option C
  | .var i => (m.vars[i]?).map Prod.fst
  | .member i k =>
      (m.vars[i]?).bind fun l => (classes.members l.1)[k]?

/-- The source can be converted to a `SmartPtr` to the class. -/
def Typed (c : C) : PointerSource C → Prop
  | .null => True
  | .copy place => m.classAt classes place = some c
  | .new made _ => made = c

instance (c : C) : (source : PointerSource C) →
    Decidable (m.Typed classes c source)
  | .null => isTrue trivial
  | .copy _ => inferInstanceAs (Decidable (_ = _))
  | .new _ _ => inferInstanceAs (Decidable (_ = _))

/-- The pointer of a source. -/
def evaluate : PointerSource C → Except PointerFault (Memory C × Option Nat)
  | .null => .ok (m, none)
  | .copy place => (m.ptr place).map fun pointer => (m, pointer)
  | .new c a =>
      if a < m.heap.length ∧ cell m.heap a = none then
        .ok ({ m with
          heap := m.heap.set a (some (Heap.newObject classes c)) },
          some a)
      else .error .cellInUse

/-- The constructors of `SmartPtr`. -/
def construct (c : C) (source : PointerSource C) :
    Except PointerFault (Memory C) :=
  if m.Typed classes c source then do
    let (m, pointer) ← m.evaluate classes source
    let m ← m.newRef pointer
    return { m with vars := m.vars ++ [(c, pointer)] }
  else .error .illTyped

/-- `operator=`.  The old pointer is still in place while its object goes. -/
def assign (place : Place) (source : PointerSource C) :
    Except PointerFault (Memory C) :=
  match m.classAt classes place with
  | none => .error .outOfScope
  | some c =>
      if m.Typed classes c source then do
        let (m, a) ← m.evaluate classes source
        let m ← m.newRef a
        let ptr ← m.ptr place
        let m ← m.deleteRef ptr
        m.setPtr a place
      else .error .illTyped

/-- `~SmartPtr` of a variable. -/
def destroy (i : Nat) : Except PointerFault (Memory C) :=
  match m.vars[i]? with
  | none => .error .outOfScope
  | some (_, ptr) => do
      let m ← m.deleteRef ptr
      return { m with vars := m.vars.eraseIdx i }

def act : PointerStep C → Except PointerFault (Memory C)
  | .construct c source => m.construct classes c source
  | .assign place source => m.assign classes place source
  | .destroy i => m.destroy i

end Memory

/-! ## The counted classes of the mixer -/

inductive HeapClass where
  | SmartBuffer
  | AccessUnit
  | AudioRawData
  | VideoRawData
deriving DecidableEq, Repr

namespace HeapClass

/-- `payload`, `rawAudioFrame_` and `rawVideoPlanes_`. -/
def members : HeapClass → List HeapClass
  | SmartBuffer => []
  | AccessUnit => [SmartBuffer]
  | AudioRawData => [SmartBuffer]
  | VideoRawData => [SmartBuffer, SmartBuffer, SmartBuffer]

def height : HeapClass → Nat
  | SmartBuffer => 0
  | _ => 1

def classes : Classes HeapClass where
  members := members
  height := height
  bound := 1
  height_le := by
    intro c
    cases c <;> decide
  height_lt := by
    intro c
    cases c <;> decide

end HeapClass

end GroupVoip
