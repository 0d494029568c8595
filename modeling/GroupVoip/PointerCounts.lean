import GroupVoip.SmartPtr

/-!
# What the counts count

Every object counts the pointers to it: those of the variables, of values that
are under way, and of the members of other objects.  Giving up a pointer
deletes objects as long as there are such with no pointer left, and comes to
an end because each of them is deleted only once.
-/

namespace GroupVoip

open Library.Runs Library.ObjectGraph

namespace Heap

variable {C : Type}

variable {held : List (Option Nat)} {heap next : Heap C} {a : Nat}

def live (heap : Heap C) : Nat :=
  total (fun _ => 1) heap

/-- The pointers to an address, those of `held` among them. -/
def pointers (held : List (Option Nat)) (heap : Heap C) (a : Nat) : Nat :=
  held.count (some a) + total (fun object => object.members.count (some a)) heap

/-- Every object counts the pointers to it, and none of them points to an
empty cell.  `held` are the pointers outside of the heap. -/
structure Counted (held : List (Option Nat)) (heap : Heap C) : Prop where
  exact : ∀ a object, cell heap a = some object →
    object.ref_ = pointers held heap a
  positive : ∀ a object, cell heap a = some object → 0 < object.ref_
  dead : ∀ a, cell heap a = none → pointers held heap a = 0

theorem Counted.perm {other : List (Option Nat)} (counted : Counted held heap)
    (same : held.Perm other) : Counted other heap := by
  have pointersSame : ∀ a, pointers held heap a = pointers other heap a := by
    intro a
    rw [pointers, pointers, same.count_eq]
  exact ⟨fun a object here => pointersSame a ▸ counted.exact a object here,
    counted.positive, fun a empty => pointersSame a ▸ counted.dead a empty⟩

theorem Counted.cell_of_mem (counted : Counted held heap)
    (member : some a ∈ held) : ∃ object, cell heap a = some object := by
  cases here : cell heap a with
  | some object => exact ⟨object, rfl⟩
  | none =>
      have zero := counted.dead a here
      have positive := List.count_pos_iff.mpr member
      rw [pointers] at zero
      omega

/-- The null pointers do not count. -/
theorem counted_none_cons : Counted (none :: held) heap ↔ Counted held heap := by
  have same : ∀ a, pointers (none :: held) heap a = pointers held heap a := by
    intro a
    rw [pointers, pointers, List.count_cons_of_ne (by simp)]
  constructor
  · exact fun counted => ⟨fun a object here => same a ▸ counted.exact a object here,
      counted.positive, fun a empty => same a ▸ counted.dead a empty⟩
  · exact fun counted => ⟨fun a object here => same a ▸ counted.exact a object here,
      counted.positive, fun a empty => same a ▸ counted.dead a empty⟩

/-- The objects of `next` are objects of `heap` with other counts. -/
structure Shrinks (heap next : Heap C) : Prop where
  length : next.length = heap.length
  live_le : live next ≤ live heap
  kept : ∀ b object, cell next b = some object →
    ∃ old, cell heap b = some old ∧ object.cls = old.cls ∧
      object.members = old.members

theorem Shrinks.refl (heap : Heap C) : Shrinks heap heap :=
  ⟨rfl, Nat.le_refl _, fun _ object here => ⟨object, here, rfl, rfl⟩⟩

theorem Shrinks.trans {last : Heap C} (first : Shrinks heap next)
    (second : Shrinks next last) : Shrinks heap last where
  length := second.length.trans first.length
  live_le := Nat.le_trans second.live_le first.live_le
  kept := by
    intro b object here
    obtain ⟨middle, there, cls, members⟩ := second.kept b object here
    obtain ⟨old, before, clsBefore, membersBefore⟩ := first.kept b middle there
    exact ⟨old, before, cls.trans clsBefore, members.trans membersBefore⟩

/-- A changed count leaves the pointers as they are. -/
theorem pointers_setRef {object : CountedObject C}
    (here : cell heap a = some object) (ref : Nat)
    (held : List (Option Nat)) (b : Nat) :
    pointers held (heap.set a (some { object with ref_ := ref })) b =
      pointers held heap b := by
  have changed := total_set (fun o : CountedObject C => o.members.count (some b))
    (lt_length_of_cell here) (some { object with ref_ := ref })
  rw [here] at changed
  simp only [weigh] at changed
  rw [pointers, pointers]
  omega

theorem shrinks_setRef {object : CountedObject C}
    (here : cell heap a = some object) (ref : Nat) :
    Shrinks heap (heap.set a (some { object with ref_ := ref })) where
  length := List.length_set
  live_le := by
    have changed := total_set (fun _ : CountedObject C => 1)
      (lt_length_of_cell here) (some { object with ref_ := ref })
    rw [here] at changed
    simp only [weigh] at changed
    rw [live, live]
    omega
  kept := by
    intro b old there
    by_cases same : b = a
    · rw [same, cell_set_self (lt_length_of_cell here)] at there
      cases there
      exact ⟨object, same ▸ here, rfl, rfl⟩
    · rw [cell_set_ne same] at there
      exact ⟨old, there, rfl, rfl⟩

/-- One object is counted anew. -/
theorem Counted.setRef {other : List (Option Nat)} {ref : Nat}
    (counted : Counted held heap) {object : CountedObject C}
    (here : cell heap a = some object)
    (others : ∀ b, b ≠ a → other.count (some b) = held.count (some b))
    (exact : ref = pointers other heap a) (positive : 0 < ref) :
    Counted other (heap.set a (some { object with ref_ := ref })) := by
  have inside := lt_length_of_cell here
  have elsewhere : ∀ b, b ≠ a → pointers other heap b = pointers held heap b := by
    intro b different
    rw [pointers, pointers, others b different]
  refine ⟨?_, ?_, ?_⟩
  · intro b old there
    rw [pointers_setRef here]
    by_cases same : b = a
    · rw [same, cell_set_self inside] at there
      cases there
      rw [same]
      exact exact
    · rw [cell_set_ne same] at there
      rw [elsewhere b same]
      exact counted.exact b old there
  · intro b old there
    by_cases same : b = a
    · rw [same, cell_set_self inside] at there
      cases there
      exact positive
    · rw [cell_set_ne same] at there
      exact counted.positive b old there
  · intro b empty
    rw [pointers_setRef here]
    by_cases same : b = a
    · rw [same, cell_set_self inside] at empty
      cases empty
    · rw [cell_set_ne same] at empty
      rw [elsewhere b same]
      exact counted.dead b empty

theorem pointers_cons_self (held : List (Option Nat)) (heap : Heap C)
    (a : Nat) : pointers (some a :: held) heap a = pointers held heap a + 1 := by
  rw [pointers, pointers, List.count_cons_self]
  omega

/-- One pointer more, one more counted. -/
theorem Counted.newRef (counted : Counted held heap)
    {object : CountedObject C} (here : cell heap a = some object) :
    Counted (some a :: held)
      (heap.set a (some { object with ref_ := object.ref_ + 1 })) := by
  refine counted.setRef here ?_ ?_ (Nat.succ_pos _)
  · intro b different
    exact List.count_cons_of_ne (by simpa using Ne.symm different)
  · rw [pointers_cons_self, counted.exact a object here]

/-- One pointer less to an object that has others. -/
theorem Counted.dropRef {object : CountedObject C} {ref : Nat}
    (counted : Counted (some a :: held) heap)
    (here : cell heap a = some object) (others : object.ref_ = ref + 2) :
    Counted held (heap.set a (some { object with ref_ := ref + 1 })) := by
  have count := counted.exact a object here
  rw [pointers_cons_self] at count
  refine counted.setRef here ?_ (by omega) (Nat.succ_pos _)
  intro b different
  exact (List.count_cons_of_ne (by simpa using Ne.symm different)).symm

/-- What is in an emptied cell counts no more. -/
theorem pointers_set_none {object : CountedObject C}
    (here : cell heap a = some object) (held : List (Option Nat)) (b : Nat) :
    pointers held (heap.set a none) b + object.members.count (some b) =
      pointers held heap b := by
  have changed := total_set
    (fun o : CountedObject C => o.members.count (some b))
    (lt_length_of_cell here) none
  rw [here] at changed
  simp only [weigh] at changed
  rw [pointers, pointers]
  omega

/-- The last pointer goes; the pointers of the object are still there. -/
theorem Counted.delete {object : CountedObject C}
    (counted : Counted (some a :: held) heap)
    (here : cell heap a = some object) (last : object.ref_ = 1) :
    Counted (object.members.reverse ++ held) (heap.set a none) := by
  have count := counted.exact a object here
  rw [pointers_cons_self, last] at count
  have moved : ∀ b, pointers (object.members.reverse ++ held)
      (heap.set a none) b = pointers held heap b := by
    intro b
    have emptied := pointers_set_none here held b
    rw [pointers] at emptied ⊢
    rw [List.count_append, List.count_reverse]
    omega
  have elsewhere : ∀ b, b ≠ a →
      pointers (some a :: held) heap b = pointers held heap b := by
    intro b different
    rw [pointers, pointers,
      List.count_cons_of_ne (by simpa using Ne.symm different)]
  refine ⟨?_, ?_, ?_⟩
  · intro b old there
    by_cases same : b = a
    · rw [same, cell_set_none] at there
      cases there
    · rw [cell_set_ne same] at there
      rw [moved, ← elsewhere b same]
      exact counted.exact b old there
  · intro b old there
    by_cases same : b = a
    · rw [same, cell_set_none] at there
      cases there
    · rw [cell_set_ne same] at there
      exact counted.positive b old there
  · intro b empty
    rw [moved]
    by_cases same : b = a
    · rw [same]
      omega
    · rw [cell_set_ne same] at empty
      rw [← elsewhere b same]
      exact counted.dead b empty

theorem live_set_none {object : CountedObject C}
    (here : cell heap a = some object) :
    live (heap.set a none) + 1 = live heap := by
  have changed := total_set (fun _ : CountedObject C => 1)
    (lt_length_of_cell here) none
  rw [here] at changed
  exact changed

theorem shrinks_set_none {object : CountedObject C}
    (here : cell heap a = some object) : Shrinks heap (heap.set a none) where
  length := List.length_set
  live_le := by
    have one := live_set_none here
    omega
  kept := by
    intro b old there
    by_cases same : b = a
    · rw [same, cell_set_none] at there
      cases there
    · rw [cell_set_ne same] at there
      exact ⟨old, there, rfl, rfl⟩

/-- The pointers of a list are given up one after the other. -/
theorem destroyAll_counted
    {deleteRef : Nat → Heap C → Except PointerFault (Heap C)} (most : Nat)
    (deletes : ∀ a held heap, Counted (some a :: held) heap →
      live heap ≤ most → ∃ next, deleteRef a heap = .ok next ∧
        Counted held next ∧ Shrinks heap next)
    (pointersGone : List (Option Nat)) {heap : Heap C}
    (counted : Counted (pointersGone ++ held) heap)
    (few : live heap ≤ most) :
    ∃ next, destroyAll deleteRef pointersGone heap = .ok next ∧
      Counted held next ∧ Shrinks heap next := by
  induction pointersGone generalizing heap with
  | nil => exact ⟨heap, rfl, counted, .refl heap⟩
  | cons pointer rest inductionHypothesis =>
      cases pointer with
      | none => exact inductionHypothesis (counted_none_cons.mp counted) few
      | some a =>
          obtain ⟨middle, deleted, countedHere, shrinks⟩ :=
            deletes a (rest ++ held) heap counted few
          obtain ⟨next, destroyed, countedNext, shrinksNext⟩ :=
            inductionHypothesis countedHere
              (Nat.le_trans shrinks.live_le few)
          refine ⟨next, ?_, countedNext, shrinks.trans shrinksNext⟩
          rw [destroyAll, deleted]
          exact destroyed

/-- One pointer is given up.  Every nested call has one object less. -/
theorem deleteRef_counted (depth : Nat) :
    ∀ (a : Nat) (held : List (Option Nat)) (heap : Heap C),
      Counted (some a :: held) heap → live heap < depth →
      ∃ next, deleteRef depth a heap = .ok next ∧ Counted held next ∧
        Shrinks heap next := by
  induction depth with
  | zero => exact fun a held heap counted few => absurd few (Nat.not_lt_zero _)
  | succ depth inductionHypothesis =>
      intro a held heap counted few
      obtain ⟨object, here⟩ := counted.cell_of_mem List.mem_cons_self
      have positive := counted.positive a object here
      match count : object.ref_ with
      | 0 => omega
      | 1 =>
          have one := live_set_none here
          obtain ⟨next, destroyed, countedNext, shrinks⟩ :=
            destroyAll_counted (depth - 1)
              (fun b others table countedThere fewThere =>
                inductionHypothesis b others table countedThere (by omega))
              object.members.reverse (counted.delete here count) (by omega)
          rw [deleteRef_last here count]
          exact ⟨next, destroyed, countedNext,
            (shrinks_set_none here).trans shrinks⟩
      | ref + 2 =>
          rw [deleteRef_more here count]
          exact ⟨_, rfl, counted.dropRef here count, shrinks_setRef here _⟩

/-! ## Deleting elsewhere -/

/-- The object at `w` with other pointers among its members. -/
def rewire (w : Nat) (members : List (Option Nat)) (heap : Heap C) : Heap C :=
  match cell heap w with
  | none => heap
  | some object => heap.set w (some { object with members := members })

variable {w : Nat} {members : List (Option Nat)}

theorem rewire_of_cell {object : CountedObject C}
    (here : cell heap w = some object) :
    rewire w members heap =
      heap.set w (some { object with members := members }) := by
  rw [rewire, here]

theorem cell_rewire_ne {b : Nat} (different : b ≠ w) :
    cell (rewire w members heap) b = cell heap b := by
  rw [rewire]
  cases cell heap w with
  | none => rfl
  | some object => exact cell_set_ne different _

theorem rewire_set_ne (different : a ≠ w) (x : Option (CountedObject C)) :
    rewire w members (heap.set a x) = (rewire w members heap).set a x := by
  rw [rewire, rewire, cell_set_ne (Ne.symm different)]
  cases cell heap w with
  | none => rfl
  | some object => exact List.set_comm _ _ different

/-- A cell that is empty stays empty. -/
theorem destroyAll_dead
    {deleteRef : Nat → Heap C → Except PointerFault (Heap C)} {b : Nat}
    (keepsDead : ∀ a heap next, deleteRef a heap = .ok next →
      cell heap b = none → cell next b = none)
    (pointersGone : List (Option Nat)) {heap next : Heap C}
    (destroyed : destroyAll deleteRef pointersGone heap = .ok next)
    (dead : cell heap b = none) : cell next b = none := by
  induction pointersGone generalizing heap with
  | nil =>
      cases destroyed
      exact dead
  | cons pointer rest inductionHypothesis =>
      cases pointer with
      | none => exact inductionHypothesis destroyed dead
      | some a =>
          rw [destroyAll] at destroyed
          obtain ⟨middle, deleted, continued⟩ := bind_ok.mp destroyed
          exact inductionHypothesis continued
            (keepsDead a heap middle deleted dead)

theorem deleteRef_dead (depth : Nat) {b : Nat} :
    ∀ (a : Nat) (heap next : Heap C), deleteRef depth a heap = .ok next →
      cell heap b = none → cell next b = none := by
  induction depth with
  | zero => exact fun a heap next deleted => nomatch deleted
  | succ depth inductionHypothesis =>
      intro a heap next deleted dead
      obtain ⟨object, here, ends⟩ := deleteRef_ok deleted
      have different : b ≠ a := by
        intro same
        rw [same, here] at dead
        cases dead
      rcases ends with ⟨_, destroyed⟩ | ⟨ref, _, changed⟩
      · refine destroyAll_dead inductionHypothesis _ destroyed ?_
        rw [cell_set_ne different]
        exact dead
      · rw [changed, cell_set_ne different]
        exact dead

/-- Deleting goes the same way whatever an object that survives points to. -/
theorem destroyAll_rewire
    {deleteRef : Nat → Heap C → Except PointerFault (Heap C)}
    (keepsDead : ∀ a heap next, deleteRef a heap = .ok next →
      cell heap w = none → cell next w = none)
    (commutes : ∀ a heap next, deleteRef a heap = .ok next →
      cell next w ≠ none →
      deleteRef a (rewire w members heap) = .ok (rewire w members next))
    (pointersGone : List (Option Nat)) {heap next : Heap C}
    (destroyed : destroyAll deleteRef pointersGone heap = .ok next)
    (survives : cell next w ≠ none) :
    destroyAll deleteRef pointersGone (rewire w members heap) =
      .ok (rewire w members next) := by
  induction pointersGone generalizing heap with
  | nil =>
      cases destroyed
      rfl
  | cons pointer rest inductionHypothesis =>
      cases pointer with
      | none => exact inductionHypothesis destroyed
      | some a =>
          rw [destroyAll] at destroyed
          obtain ⟨middle, deleted, continued⟩ := bind_ok.mp destroyed
          have between : cell middle w ≠ none := fun dead =>
            survives (destroyAll_dead keepsDead rest continued dead)
          rw [destroyAll, commutes a heap middle deleted between]
          exact inductionHypothesis continued

theorem deleteRef_rewire (w : Nat) (members : List (Option Nat))
    (depth : Nat) :
    ∀ (a : Nat) (heap next : Heap C), deleteRef depth a heap = .ok next →
      cell next w ≠ none →
      deleteRef depth a (rewire w members heap) =
        .ok (rewire w members next) := by
  induction depth with
  | zero => exact fun a heap next deleted => nomatch deleted
  | succ depth inductionHypothesis =>
      intro a heap next deleted survives
      obtain ⟨object, here, ends⟩ := deleteRef_ok deleted
      by_cases same : a = w
      · subst same
        have inside := lt_length_of_cell here
        rcases ends with ⟨_, destroyed⟩ | ⟨ref, more, changed⟩
        · refine absurd ?_ survives
          exact destroyAll_dead (deleteRef_dead depth) _ destroyed
            (cell_set_none heap a)
        · subst changed
          have rewired : cell (rewire a members heap) a =
              some { object with members := members } := by
            rw [rewire_of_cell here, cell_set_self inside]
          rw [deleteRef_more rewired more, rewire_of_cell here,
            rewire_of_cell (cell_set_self inside _), List.set_set,
            List.set_set]
      · have elsewhere : cell (rewire w members heap) a = some object :=
          (cell_rewire_ne same).trans here
        rcases ends with ⟨last, destroyed⟩ | ⟨ref, more, changed⟩
        · rw [deleteRef_last elsewhere last, ← rewire_set_ne same]
          exact destroyAll_rewire (deleteRef_dead depth) inductionHypothesis _
            destroyed survives
        · rw [deleteRef_more elsewhere more, ← rewire_set_ne same, changed]

/-! ## Classes -/

variable {classes : Classes C} {c : C} {pointer : Option Nat}

/-- What the pointer points to is of the class. -/
def Fits (heap : Heap C) (c : C) (pointer : Option Nat) : Prop :=
  ∀ a object, pointer = some a → cell heap a = some object → object.cls = c

/-- The variables and the members point to objects of their classes. -/
structure Shaped (classes : Classes C) (vars : List (C × Option Nat))
    (heap : Heap C) : Prop where
  vars_fit : ∀ l ∈ vars, Fits heap l.1 l.2
  members_fit : ∀ a object, cell heap a = some object →
    ∀ (k : Nat) d p, (classes.members object.cls)[k]? = some d →
      object.members[k]? = some p → Fits heap d p
  members_length : ∀ a object, cell heap a = some object →
    object.members.length = (classes.members object.cls).length

theorem Fits.shrink (fits : Fits heap c pointer) (shrinks : Shrinks heap next) :
    Fits next c pointer := by
  intro a object points here
  obtain ⟨old, before, cls, _⟩ := shrinks.kept a object here
  exact cls.trans (fits a old points before)

theorem Shaped.shrink {vars : List (C × Option Nat)}
    (shaped : Shaped classes vars heap) (shrinks : Shrinks heap next) :
    Shaped classes vars next where
  vars_fit := fun l member => (shaped.vars_fit l member).shrink shrinks
  members_fit := by
    intro a object here k d p declared pointsTo
    obtain ⟨old, before, cls, members⟩ := shrinks.kept a object here
    rw [cls] at declared
    rw [members] at pointsTo
    exact (shaped.members_fit a old before k d p declared pointsTo).shrink
      shrinks
  members_length := by
    intro a object here
    obtain ⟨old, before, cls, members⟩ := shrinks.kept a object here
    rw [cls, members]
    exact shaped.members_length a old before

theorem live_le_length (heap : Heap C) : live heap ≤ heap.length := by
  induction heap with
  | nil => exact Nat.le_refl _
  | cons head tail inductionHypothesis =>
      rw [live, total] at inductionHypothesis ⊢
      rw [List.map_cons, List.sum_cons, List.length_cons]
      cases head with
      | none =>
          rw [weigh]
          omega
      | some object =>
          rw [weigh]
          omega

/-- An object whose pointers are null. -/
def Blank (object : CountedObject C) : Prop :=
  ∀ pointer ∈ object.members, pointer = none

theorem blank_newObject (classes : Classes C) (c : C) :
    Blank (newObject classes c) :=
  fun _ member => List.eq_of_mem_replicate member

theorem pointers_new {object : CountedObject C} (inside : a < heap.length)
    (empty : cell heap a = none) (blank : Blank object)
    (held : List (Option Nat)) (b : Nat) :
    pointers held (heap.set a (some object)) b = pointers held heap b := by
  have changed := total_set
    (fun o : CountedObject C => o.members.count (some b)) inside (some object)
  have noPointers : object.members.count (some b) = 0 := by
    rw [List.count_eq_zero]
    intro member
    cases blank _ member
  rw [empty] at changed
  simp only [weigh, noPointers] at changed
  rw [pointers, pointers]
  omega

theorem Counted.new {object : CountedObject C} (counted : Counted held heap)
    (inside : a < heap.length) (empty : cell heap a = none)
    (blank : Blank object) (one : object.ref_ = 1) :
    Counted (some a :: held) (heap.set a (some object)) := by
  have unused := counted.dead a empty
  have elsewhere : ∀ b, b ≠ a →
      pointers (some a :: held) heap b = pointers held heap b := by
    intro b different
    rw [pointers, pointers,
      List.count_cons_of_ne (by simpa using Ne.symm different)]
  refine ⟨?_, ?_, ?_⟩
  · intro b target here
    rw [pointers_new inside empty blank]
    by_cases same : b = a
    · rw [same, cell_set_self inside] at here
      cases here
      rw [same, pointers_cons_self, unused, one]
    · rw [cell_set_ne same] at here
      rw [elsewhere b same]
      exact counted.exact b target here
  · intro b target here
    by_cases same : b = a
    · rw [same, cell_set_self inside] at here
      cases here
      rw [one]
      exact Nat.one_pos
    · rw [cell_set_ne same] at here
      exact counted.positive b target here
  · intro b dead
    rw [pointers_new inside empty blank]
    by_cases same : b = a
    · rw [same, cell_set_self inside] at dead
      cases dead
    · rw [cell_set_ne same] at dead
      rw [elsewhere b same]
      exact counted.dead b dead

/-- Nothing points to an empty cell. -/
theorem Counted.not_mem_members (counted : Counted held heap)
    (empty : cell heap a = none) {b : Nat} {object : CountedObject C}
    (here : cell heap b = some object) : some a ∉ object.members := by
  intro member
  have unused := counted.dead a empty
  have part := weigh_le_total
    (fun o : CountedObject C => o.members.count (some a)) heap b
  have positive := List.count_pos_iff.mpr member
  rw [here] at part
  simp only [weigh] at part
  rw [pointers] at unused
  omega

theorem Fits.new (fits : Fits heap c pointer) (different : pointer ≠ some a)
    (object : CountedObject C) : Fits (heap.set a (some object)) c pointer := by
  intro b target points here
  have elsewhere : b ≠ a := by
    intro same
    rw [same] at points
    exact different points
  rw [cell_set_ne elsewhere] at here
  exact fits b target points here

theorem Shaped.new {vars : List (C × Option Nat)} {object : CountedObject C}
    (shaped : Shaped classes vars heap)
    (counted : Counted (vars.map Prod.snd) heap) (inside : a < heap.length)
    (empty : cell heap a = none) (blank : Blank object)
    (length : object.members.length = (classes.members object.cls).length) :
    Shaped classes vars (heap.set a (some object)) where
  vars_fit := by
    intro l member
    refine (shaped.vars_fit l member).new ?_ _
    intro points
    have held : some a ∈ vars.map Prod.snd :=
      points ▸ List.mem_map_of_mem member
    obtain ⟨target, here⟩ := counted.cell_of_mem held
    rw [empty] at here
    cases here
  members_fit := by
    intro b target here k d p declared pointsTo
    by_cases same : b = a
    · rw [same, cell_set_self inside] at here
      cases here
      have null := blank p (List.mem_of_getElem? pointsTo)
      intro e other points
      rw [null] at points
      cases points
    · rw [cell_set_ne same] at here
      refine (shaped.members_fit b target here k d p declared pointsTo).new ?_ _
      intro points
      exact counted.not_mem_members empty here
        (points ▸ List.mem_of_getElem? pointsTo)
  members_length := by
    intro b target here
    by_cases same : b = a
    · rw [same, cell_set_self inside] at here
      cases here
      exact length
    · rw [cell_set_ne same] at here
      exact shaped.members_length b target here

/-- Putting back what is there. -/
theorem set_cell {object : CountedObject C} (here : cell heap a = some object) :
    heap.set a (some object) = heap := by
  have inside := lt_length_of_cell here
  rw [cell, List.getElem?_eq_getElem inside, Option.join_some] at here
  rw [← here]
  exact List.set_getElem_self inside

theorem count_set (list : List (Option Nat)) (k : Nat) (x : Option Nat)
    {old : Option Nat} (here : list[k]? = some old) (y : Option Nat) :
    (list.set k x).count y + (if old == y then 1 else 0) =
      list.count y + (if x == y then 1 else 0) := by
  induction list generalizing k with
  | nil => cases here
  | cons head tail inductionHypothesis =>
      cases k with
      | zero =>
          cases here
          rw [List.set_cons_zero, List.count_cons, List.count_cons]
          omega
      | succ k =>
          have later := inductionHypothesis k here
          rw [List.set_cons_succ, List.count_cons, List.count_cons]
          omega

/-- A member points elsewhere, and the old pointer is held instead. -/
theorem Counted.exchange {object : CountedObject C} {k : Nat}
    {old : Option Nat} (counted : Counted (pointer :: held) heap)
    (here : cell heap a = some object)
    (pointsTo : object.members[k]? = some old) :
    Counted (old :: held) (heap.set a
      (some { object with members := object.members.set k pointer })) := by
  have inside := lt_length_of_cell here
  have moved : ∀ b, pointers (old :: held) (heap.set a
      (some { object with members := object.members.set k pointer })) b =
        pointers (pointer :: held) heap b := by
    intro b
    have changed := total_set
      (fun o : CountedObject C => o.members.count (some b)) inside
      (some { object with members := object.members.set k pointer })
    rw [here] at changed
    simp only [weigh] at changed
    have swapped := count_set object.members k pointer pointsTo (some b)
    rw [pointers, pointers, List.count_cons, List.count_cons]
    omega
  refine ⟨?_, ?_, ?_⟩
  · intro b target there
    rw [moved]
    by_cases same : b = a
    · rw [same, cell_set_self inside] at there
      cases there
      rw [same]
      exact counted.exact a object here
    · rw [cell_set_ne same] at there
      exact counted.exact b target there
  · intro b target there
    by_cases same : b = a
    · rw [same, cell_set_self inside] at there
      cases there
      exact counted.positive a object here
    · rw [cell_set_ne same] at there
      exact counted.positive b target there
  · intro b empty
    rw [moved]
    by_cases same : b = a
    · rw [same, cell_set_self inside] at empty
      cases empty
    · rw [cell_set_ne same] at empty
      exact counted.dead b empty

/-- A change that keeps the class of an object. -/
theorem Fits.setMembers {object : CountedObject C}
    (fits : Fits heap c pointer) (here : cell heap a = some object)
    (members : List (Option Nat)) :
    Fits (heap.set a (some { object with members := members })) c pointer := by
  intro b target points there
  by_cases same : b = a
  · rw [same, cell_set_self (lt_length_of_cell here)] at there
    cases there
    exact fits a object (same ▸ points) here
  · rw [cell_set_ne same] at there
    exact fits b target points there

theorem Shaped.exchange {vars : List (C × Option Nat)}
    {object : CountedObject C} {k : Nat}
    (shaped : Shaped classes vars heap) (here : cell heap a = some object)
    (declared : (classes.members object.cls)[k]? = some c)
    (fits : Fits heap c pointer) :
    Shaped classes vars (heap.set a
      (some { object with members := object.members.set k pointer })) where
  vars_fit := fun l member => (shaped.vars_fit l member).setMembers here _
  members_fit := by
    intro b target there j d p declaredThere pointsTo
    refine Fits.setMembers ?_ here _
    by_cases same : b = a
    · rw [same, cell_set_self (lt_length_of_cell here)] at there
      cases there
      by_cases changed : k = j
      · subst changed
        have inside : k < object.members.length := by
          have some := (List.getElem?_eq_some_iff.mp pointsTo).1
          simpa using some
        rw [List.getElem?_set_self inside] at pointsTo
        cases pointsTo
        rw [declared] at declaredThere
        cases declaredThere
        exact fits
      · rw [List.getElem?_set_ne changed] at pointsTo
        exact shaped.members_fit a object here j d p declaredThere pointsTo
    · rw [cell_set_ne same] at there
      exact shaped.members_fit b target there j d p declaredThere pointsTo
  members_length := by
    intro b target there
    by_cases same : b = a
    · rw [same, cell_set_self (lt_length_of_cell here)] at there
      cases there
      rw [List.length_set]
      exact shaped.members_length a object here
    · rw [cell_set_ne same] at there
      exact shaped.members_length b target there

end Heap

end GroupVoip
