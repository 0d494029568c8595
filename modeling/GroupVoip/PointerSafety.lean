import GroupVoip.PointerCounts

/-!
# Smart pointers never dangle and never leak

Every operation of `SmartPtr` keeps the counts of the objects in step with the
pointers to them, also when an assignment deletes objects while the assigned
pointer still has its old value.
-/

namespace GroupVoip

open Library.Runs Library.ObjectGraph

/-- The faults of a caller; the others corrupt the memory. -/
def PointerFault.Misuse : PointerFault → Prop
  | .nullDereference | .outOfScope | .illTyped | .cellInUse => True
  | .useAfterFree | .countUnderflow | .stackOverflow => False

/-- What returns has `P`, and what fails is misuse. -/
def Safe {α : Type} (x : Except PointerFault α) (P : α → Prop) : Prop :=
  match x with
  | .error fault => fault.Misuse
  | .ok value => P value

theorem Safe.bind {α β : Type} {x : Except PointerFault α}
    {f : α → Except PointerFault β} {P : α → Prop} {Q : β → Prop}
    (first : Safe x P) (second : ∀ value, P value → Safe (f value) Q) :
    Safe (x >>= f) Q := by
  cases x with
  | error fault => exact first
  | ok value => exact second value first

namespace Memory

variable {C : Type} {classes : Classes C} {m : Memory C} {c : C}
  {pointer : Option Nat}

open Heap

/-- Every object counts the pointers to it and is of their class. -/
structure Sound (classes : Classes C) (m : Memory C) : Prop where
  counted : Counted m.held m.heap
  shaped : Shaped classes m.vars m.heap

/-- The pointer of a source counts although nothing holds it yet. -/
structure Acquired (classes : Classes C) (m : Memory C) (c : C)
    (pointer : Option Nat) (t : Memory C) : Prop where
  vars : t.vars = m.vars
  counted : Counted (pointer :: m.held) t.heap
  shaped : Shaped classes t.vars t.heap
  fits : Fits t.heap c pointer

theorem sound_start (classes : Classes C) (capacity : Nat) :
    (start C capacity).Sound classes where
  counted := by
    refine ⟨?_, ?_, ?_⟩
    · intro a object here
      rw [start, cell_replicate] at here
      cases here
    · intro a object here
      rw [start, cell_replicate] at here
      cases here
    · intro a _
      simp [pointers, start, held, total_replicate]
  shaped := by
    refine ⟨?_, ?_, ?_⟩
    · intro l member
      cases member
    · intro a object here
      rw [start, cell_replicate] at here
      cases here
    · intro a object here
      rw [start, cell_replicate] at here
      cases here

theorem mem_held {l : C × Option Nat} (member : l ∈ m.vars) :
    l.2 ∈ m.held :=
  List.mem_map_of_mem member

/-- The pointer read from a place counts, and is of the class of the place. -/
theorem ptr_safe {held : List (Option Nat)}
    (counted : Counted held m.heap) (shaped : Shaped classes m.vars m.heap)
    (holds : ∀ pointer ∈ m.held, pointer ∈ held) (place : Place)
    (declared : m.classAt classes place = some c) :
    Safe (m.ptr place) fun pointer =>
      Fits m.heap c pointer ∧
        ∀ a, pointer = some a → ∃ object, cell m.heap a = some object := by
  cases place with
  | var i =>
      cases here : m.vars[i]? with
      | none =>
          rw [ptr, here]
          trivial
      | some l =>
          have member := List.mem_of_getElem? here
          rw [classAt, here] at declared
          cases declared
          rw [ptr, here]
          refine ⟨shaped.vars_fit l member, ?_⟩
          intro a points
          exact counted.cell_of_mem (points ▸ holds _ (mem_held member))
  | member i k =>
      cases here : m.vars[i]? with
      | none =>
          rw [ptr, here]
          trivial
      | some l =>
          obtain ⟨d, owner⟩ := l
          have member := List.mem_of_getElem? here
          cases owner with
          | none =>
              rw [ptr, here]
              trivial
          | some w =>
              obtain ⟨object, there⟩ :=
                counted.cell_of_mem (holds _ (mem_held member))
              rw [ptr, here]
              simp only [there]
              cases inside : object.members[k]? with
              | none => trivial
              | some old =>
                  have cls : object.cls = d :=
                    shaped.vars_fit _ member w object rfl there
                  rw [classAt, here] at declared
                  subst cls
                  refine ⟨shaped.members_fit w object there k c old declared
                    inside, ?_⟩
                  intro a points
                  by_contra empty
                  have none : cell m.heap a = none := by
                    cases left : cell m.heap a with
                    | none => rfl
                    | some target => exact absurd ⟨target, left⟩ empty
                  exact counted.not_mem_members none there
                    (points ▸ List.mem_of_getElem? inside)

theorem newRef_acquired (counted : Counted m.held m.heap)
    (shaped : Shaped classes m.vars m.heap) (fits : Fits m.heap c pointer)
    (there : ∀ a, pointer = some a → ∃ object, cell m.heap a = some object) :
    Safe (m.newRef pointer) (m.Acquired classes c pointer) := by
  cases pointer with
  | none => exact ⟨rfl, counted_none_cons.mpr counted, shaped, fits⟩
  | some a =>
      obtain ⟨object, here⟩ := there a rfl
      have shrinks := shrinks_setRef here (object.ref_ + 1)
      rw [newRef, Heap.newRef, here]
      exact ⟨rfl, counted.newRef here, shaped.shrink shrinks,
        fits.shrink shrinks⟩

/-- What a constructor or `operator=` does before it touches its own pointer. -/
theorem evaluate_newRef_safe (sound : m.Sound classes)
    {source : PointerSource C} (typed : m.Typed classes c source) :
    Safe (m.evaluate classes source) fun made =>
      made.1.vars = m.vars ∧
        Safe (made.1.newRef made.2) (m.Acquired classes c made.2) := by
  cases source with
  | null =>
      refine ⟨rfl, newRef_acquired sound.counted sound.shaped ?_ ?_⟩
      · intro a object points
        cases points
      · intro a points
        cases points
  | copy place =>
      have read := ptr_safe sound.counted sound.shaped (fun _ held => held)
        place typed
      rw [evaluate]
      cases points : m.ptr place with
      | error fault =>
          rw [points] at read
          exact read
      | ok pointer =>
          rw [points] at read
          exact ⟨rfl, newRef_acquired sound.counted sound.shaped read.1 read.2⟩
  | new made a =>
      rw [evaluate]
      by_cases free : a < m.heap.length ∧ cell m.heap a = none
      · rw [if_pos free]
        obtain ⟨inside, empty⟩ := free
        have blank := blank_newObject classes made
        refine ⟨rfl, ?_⟩
        rw [newRef, Heap.newRef, cell_set_self inside]
        simp only [List.set_set]
        refine ⟨rfl, sound.counted.new inside empty blank rfl,
          sound.shaped.new sound.counted inside empty blank
            List.length_replicate, ?_⟩
        intro b object points here
        cases points
        rw [cell_set_self inside] at here
        cases here
        exact typed
      · rw [if_neg free]
        trivial

/-- Giving up a pointer that is counted. -/
theorem deleteRef_ok {held : List (Option Nat)} (vars : List (C × Option Nat))
    {heap : Heap C} (counted : Counted (pointer :: held) heap) :
    ∃ next, (Memory.mk heap vars).deleteRef pointer = .ok ⟨next, vars⟩ ∧
      Counted held next ∧ Shrinks heap next := by
  cases pointer with
  | none => exact ⟨heap, rfl, counted_none_cons.mp counted, .refl heap⟩
  | some a =>
      have few := live_le_length heap
      obtain ⟨next, deleted, countedNext, shrinks⟩ :=
        deleteRef_counted (heap.length + 1) a held heap counted (by omega)
      refine ⟨next, ?_, countedNext, shrinks⟩
      rw [deleteRef, deleted]
      rfl

theorem destroy_safe (sound : m.Sound classes) (i : Nat) :
    Safe (m.destroy i) (Sound classes) := by
  rw [destroy]
  cases here : m.vars[i]? with
  | none => trivial
  | some l =>
      obtain ⟨c, pointer⟩ := l
      have split : m.held.Perm (pointer :: m.held.eraseIdx i) := by
        have there : m.held[i]? = some pointer := by
          rw [held, List.getElem?_map, here]
          rfl
        obtain ⟨inside, points⟩ := List.getElem?_eq_some_iff.mp there
        rw [← points]
        exact (List.getElem_cons_eraseIdx_perm inside).symm
      obtain ⟨next, deleted, counted, shrinks⟩ :=
        deleteRef_ok m.vars (sound.counted.perm split)
      have erased : (m.vars.eraseIdx i).map Prod.snd = m.held.eraseIdx i := by
        rw [held, List.eraseIdx_map]
      have shaped := sound.shaped.shrink shrinks
      show Safe ((m.deleteRef pointer).bind fun t =>
        .ok { t with vars := t.vars.eraseIdx i }) _
      rw [deleted]
      refine ⟨?_, ?_, shaped.members_fit, shaped.members_length⟩
      · show Counted ((m.vars.eraseIdx i).map Prod.snd) next
        rw [erased]
        exact counted
      · intro l member
        exact shaped.vars_fit l (List.mem_of_mem_eraseIdx member)

/-- The last steps of `operator=` on a variable. -/
theorem assignVar_safe {t : Memory C} (acquired : m.Acquired classes c pointer t)
    {i : Nat} {old : Option Nat} (here : t.vars[i]? = some (c, old)) :
    Safe ((t.deleteRef old).bind fun u => u.setPtr pointer (.var i))
      (Sound classes) := by
  have split : (pointer :: t.held).Perm (old :: (t.held.set i pointer)) := by
    have there : t.held[i]? = some old := by
      rw [held, List.getElem?_map, here]
      rfl
    obtain ⟨inside, points⟩ := List.getElem?_eq_some_iff.mp there
    rw [← points]
    have first := List.getElem_cons_eraseIdx_perm inside
    have second := List.set_perm_cons_eraseIdx inside pointer
    exact ((first.symm.cons pointer).trans (.swap _ _ _)).trans
      (second.symm.cons _)
  have counted := acquired.counted
  have same : m.held = t.held := by rw [held, held, acquired.vars]
  rw [same] at counted
  obtain ⟨next, deleted, countedNext, shrinks⟩ :=
    deleteRef_ok t.vars (counted.perm split)
  have shaped := acquired.shaped.shrink shrinks
  rw [deleted, Except.bind, setPtr, here]
  refine ⟨?_, ?_, shaped.members_fit, shaped.members_length⟩
  · show Counted ((t.vars.set i (c, pointer)).map Prod.snd) next
    rw [List.map_set]
    exact countedNext
  · intro l member
    rcases List.mem_or_eq_of_mem_set member with before | new
    · exact shaped.vars_fit l before
    · rw [new]
      exact acquired.fits.shrink shrinks

/-- The last steps of `operator=` on a member.  What `deleteRef` does would be
the same with the new pointer in place. -/
theorem assignMember_safe {t : Memory C}
    (acquired : m.Acquired classes c pointer t) {i k w : Nat} {d : C}
    {object : CountedObject C} {old : Option Nat}
    (owner : t.vars[i]? = some (d, some w))
    (there : cell t.heap w = some object)
    (declared : (classes.members object.cls)[k]? = some c)
    (pointsTo : object.members[k]? = some old) :
    Safe ((t.deleteRef old).bind fun u => u.setPtr pointer (.member i k))
      (Sound classes) := by
  have inside := lt_length_of_cell there
  have counted := acquired.counted
  have same : m.held = t.held := by rw [held, held, acquired.vars]
  rw [same] at counted
  have assigned := counted.exchange there pointsTo
  have shapedThen := acquired.shaped.exchange there declared acquired.fits
  obtain ⟨next, deleted, countedNext, shrinks⟩ := deleteRef_ok t.vars assigned
  have shaped := shapedThen.shrink shrinks
  obtain ⟨target, survives⟩ := countedNext.cell_of_mem
    (mem_held (List.mem_of_getElem? owner))
  obtain ⟨before, wasThere, _, members⟩ := shrinks.kept w target survives
  rw [cell_set_self inside] at wasThere
  cases wasThere
  have undone : rewire w object.members (t.heap.set w
      (some { object with members := object.members.set k pointer })) =
        t.heap := by
    rw [rewire_of_cell (cell_set_self inside _), List.set_set]
    exact set_cell there
  have really : t.deleteRef old =
      .ok ⟨rewire w object.members next, t.vars⟩ := by
    cases old with
    | none =>
        cases deleted
        rw [undone]
        rfl
    | some b =>
        obtain ⟨heap, deletedThere, isNext⟩ := map_ok.mp deleted
        cases isNext
        have commutes := deleteRef_rewire w object.members _ b _ _
          deletedThere (by rw [survives]; exact Option.some_ne_none target)
        rw [undone, List.length_set] at commutes
        rw [deleteRef, commutes]
        rfl
  have back : cell (rewire w object.members next) w =
      some { target with members := object.members } := by
    rw [rewire_of_cell survives, cell_set_self (lt_length_of_cell survives)]
  have final : (rewire w object.members next).set w
      (some { target with members := object.members.set k pointer }) =
        next := by
    rw [rewire_of_cell survives, List.set_set]
    have assignedThere : object.members.set k pointer = target.members :=
      members.symm
    rw [assignedThere]
    exact set_cell survives
  rw [really, Except.bind, setPtr, owner]
  simp only [back]
  rw [final]
  exact ⟨countedNext, shaped⟩

/-! ## What the variables reach -/

/-- A variable points to `a`. -/
def Root (m : Memory C) (a : Nat) : Prop :=
  some a ∈ m.held

/-- A member of the object at `b` points to `a`. -/
def Refers (m : Memory C) (b a : Nat) : Prop :=
  ∃ object, cell m.heap b = some object ∧ some a ∈ object.members

/-- The class of what is at `a` bounds the length of the paths from it. -/
def rank (classes : Classes C) (m : Memory C) (a : Nat) : Nat :=
  match cell m.heap a with
  | none => 0
  | some object => classes.height object.cls

theorem Sound.refers_lt (sound : m.Sound classes) {a b : Nat}
    (refers : m.Refers b a) : m.rank classes a < m.rank classes b := by
  obtain ⟨object, here, member⟩ := refers
  obtain ⟨k, points⟩ := List.mem_iff_getElem?.mp member
  have inside := (List.getElem?_eq_some_iff.mp points).1
  rw [sound.shaped.members_length b object here] at inside
  have declared := List.getElem?_eq_getElem inside
  have fits := sound.shaped.members_fit b object here k _ _ declared points
  have below := classes.height_lt object.cls _ (List.getElem_mem inside)
  cases there : cell m.heap a with
  | none =>
      exact absurd member (sound.counted.not_mem_members there here)
  | some target =>
      rw [rank, rank, here, there]
      simp only [fits a target rfl there]
      exact below

theorem rank_le (classes : Classes C) (m : Memory C) (a : Nat) :
    m.rank classes a ≤ classes.bound := by
  rw [rank]
  split
  · exact Nat.zero_le _
  · exact classes.height_le _

/-- What is counted is held by a variable or by another object. -/
theorem Sound.held_or_refers (sound : m.Sound classes) {a : Nat}
    {object : CountedObject C} (here : cell m.heap a = some object) :
    m.Root a ∨ ∃ b, (∃ owner, cell m.heap b = some owner) ∧ m.Refers b a := by
  have exact := sound.counted.exact a object here
  have positive := sound.counted.positive a object here
  rw [exact, pointers] at positive
  by_cases root : 0 < m.held.count (some a)
  · exact .inl (List.count_pos_iff.mp root)
  · obtain ⟨b, owner, there, part⟩ := exists_of_total_pos
      (fun o : CountedObject C => o.members.count (some a)) m.heap (by omega)
    exact .inr ⟨b, ⟨owner, there⟩, owner, there, List.count_pos_iff.mp part⟩

/-! ## Operations that look at classes -/

variable [DecidableEq C]

theorem construct_safe (sound : m.Sound classes) (c : C)
    (source : PointerSource C) :
    Safe (m.construct classes c source) (Sound classes) := by
  rw [construct]
  by_cases typed : m.Typed classes c source
  · rw [if_pos typed]
    refine (evaluate_newRef_safe sound typed).bind ?_
    rintro ⟨made, pointer⟩ ⟨vars, acquires⟩
    refine acquires.bind ?_
    intro t acquired
    refine ⟨?_, ?_, acquired.shaped.members_fit, acquired.shaped.members_length⟩
    · show Counted ((t.vars ++ [(c, pointer)]).map Prod.snd) t.heap
      rw [List.map_append, acquired.vars]
      exact acquired.counted.perm (List.perm_append_singleton _ _).symm
    · intro l member
      rcases List.mem_append.mp member with before | new
      · exact acquired.shaped.vars_fit l before
      · rw [List.mem_singleton] at new
        rw [new]
        exact acquired.fits
  · rw [if_neg typed]
    trivial

theorem assign_safe (sound : m.Sound classes) (place : Place)
    (source : PointerSource C) :
    Safe (m.assign classes place source) (Sound classes) := by
  rw [assign]
  cases declared : m.classAt classes place with
  | none => trivial
  | some c =>
      by_cases typed : m.Typed classes c source
      · simp only [if_pos typed]
        refine (evaluate_newRef_safe sound typed).bind ?_
        rintro ⟨made, pointer⟩ ⟨_, acquires⟩
        refine acquires.bind ?_
        intro t acquired
        have same : m.held = t.held := by rw [held, held, acquired.vars]
        have declaredThen : t.classAt classes place = some c := by
          rw [← declared]
          cases place <;> simp only [classAt, acquired.vars]
        cases place with
        | var i =>
            cases here : t.vars[i]? with
            | none =>
                simp only [ptr, here]
                trivial
            | some l =>
                obtain ⟨d, old⟩ := l
                rw [classAt, here] at declaredThen
                cases declaredThen
                simp only [ptr, here]
                exact assignVar_safe acquired here
        | member i k =>
            cases here : t.vars[i]? with
            | none =>
                simp only [ptr, here]
                trivial
            | some l =>
                obtain ⟨d, owner⟩ := l
                have member := List.mem_of_getElem? here
                cases owner with
                | none =>
                    simp only [ptr, here]
                    trivial
                | some w =>
                    have held : some w ∈ pointer :: m.held := by
                      rw [same]
                      exact List.mem_cons_of_mem _ (mem_held member)
                    obtain ⟨object, there⟩ := acquired.counted.cell_of_mem held
                    have cls : object.cls = d :=
                      acquired.shaped.vars_fit _ member w object rfl there
                    rw [classAt, here] at declaredThen
                    subst cls
                    cases pointsTo : object.members[k]? with
                    | none =>
                        simp only [ptr, here, there, pointsTo]
                        trivial
                    | some old =>
                        simp only [ptr, here, there, pointsTo]
                        exact assignMember_safe acquired here there
                          declaredThen pointsTo
      · simp only [if_neg typed]
        trivial

theorem act_safe (sound : m.Sound classes) (step : PointerStep C) :
    Safe (m.act classes step) (Sound classes) := by
  cases step with
  | construct c source => exact construct_safe sound c source
  | assign place source => exact assign_safe sound place source
  | destroy i => exact destroy_safe sound i

/-! ## Runs -/

theorem run_safe (sound : m.Sound classes) (steps : List (PointerStep C)) :
    Safe (run (act classes) m steps) (Sound classes) := by
  induction steps generalizing m with
  | nil => exact sound
  | cons step rest inductionHypothesis =>
      exact (act_safe sound step).bind fun next soundNext =>
        inductionHypothesis soundNext

theorem sound_of_run {capacity : Nat} {steps : List (PointerStep C)}
    {final : Memory C}
    (reached : run (act classes) (start C capacity) steps = .ok final) :
    final.Sound classes := by
  have safe := run_safe (sound_start classes capacity) steps
  rw [reached] at safe
  exact safe

end Memory

open Heap Memory

variable {C : Type} [DecidableEq C]

/-- Whatever is done with smart pointers, no deleted object is touched, no
count falls below zero, and every deletion comes to an end. -/
theorem smartPtr_neverCorrupts (classes : Classes C) (capacity : Nat)
    (steps : List (PointerStep C)) :
    run (Memory.act classes) (Memory.start C capacity) steps ≠
        .error .useAfterFree ∧
      run (Memory.act classes) (Memory.start C capacity) steps ≠
        .error .countUnderflow ∧
      run (Memory.act classes) (Memory.start C capacity) steps ≠
        .error .stackOverflow := by
  have safe := run_safe (sound_start classes capacity) steps
  refine ⟨?_, ?_, ?_⟩
  all_goals
    intro failed
    rw [failed] at safe
    exact safe

/-- The objects in memory are those that the variables reach, so that an
object goes exactly with the last pointer to it, and each has counted the
pointers to it. -/
theorem smartPtr_exact {classes : Classes C} {capacity : Nat}
    {steps : List (PointerStep C)} {final : Memory C}
    (reached : run (Memory.act classes) (Memory.start C capacity) steps =
      .ok final) :
    (∀ a, (∃ object, cell final.heap a = some object) ↔
      Reached final.Root final.Refers a) ∧
    ∀ a object, cell final.heap a = some object →
      object.ref_ = pointers final.held final.heap a ∧ 0 < object.ref_ := by
  have sound := sound_of_run reached
  refine ⟨fun a => ⟨?_, ?_⟩, ?_⟩
  · intro present
    refine reached_of_ranked
      (fun b => ∃ object, cell final.heap b = some object)
      (final.rank classes) classes.bound
      (fun b _ => rank_le classes final b)
      (fun b c _ refers => sound.refers_lt refers) ?_ present
    rintro b ⟨object, here⟩
    exact sound.held_or_refers here
  · intro isReached
    refine isReached.mem (fun r root => sound.counted.cell_of_mem root) ?_
    rintro b c _ ⟨owner, there, member⟩
    by_contra gone
    refine sound.counted.not_mem_members ?_ there member
    cases left : cell final.heap c with
    | none => rfl
    | some target => exact absurd ⟨target, left⟩ gone
  · intro a object here
    exact ⟨sound.counted.exact a object here,
      sound.counted.positive a object here⟩

/-- The payload of an access unit outlives it. -/
def payloadOutlives : List (PointerStep HeapClass) :=
  [.construct .AccessUnit (.new .AccessUnit 0),
    .assign (.member 0 0) (.new .SmartBuffer 1),
    .construct .SmartBuffer (.copy (.member 0 0)),
    .assign (.var 0) .null]

theorem smartPtr_exact_payloadOutlives :
    ∃ final, run (Memory.act HeapClass.classes) (Memory.start HeapClass 2)
        payloadOutlives = .ok final ∧
      final.heap = [none, some ⟨.SmartBuffer, 1, []⟩] ∧
      (∀ a, (∃ object, cell final.heap a = some object) ↔
        Reached final.Root final.Refers a) ∧
      ∀ a object, cell final.heap a = some object →
        object.ref_ = pointers final.held final.heap a ∧ 0 < object.ref_ := by
  have ran : (run (Memory.act HeapClass.classes) (Memory.start HeapClass 2)
      payloadOutlives).map Memory.heap =
        .ok [none, some ⟨.SmartBuffer, 1, []⟩] := by
    decide +kernel
  obtain ⟨final, reached, heap⟩ := map_ok.mp ran
  exact ⟨final, reached, heap, smartPtr_exact reached⟩

end GroupVoip
