import Mathlib.Data.List.Infix
import Mathlib.Tactic.Common

/-!
# Parsers that start over

Such a parser looks at all the bytes it has.  Either it takes a piece from
their front, or it asks for more bytes and starts over when they are there.
It may remember something when it asks.  As long as that does not change what
it takes later, the way a stream is cut does not matter.
-/

namespace GroupVoip.Library.Restarting

variable {α σ ω : Type}

inductive Outcome (σ ω : Type) where
  | wait (state : σ) (amount : Nat)
  | done (state : σ) (consumed : Nat) (results : List ω)

/-- A parser between two reads: what it has not taken yet, and the number of
bytes it asks for. -/
structure Reader (α σ : Type) where
  state : σ
  buffer : List α := []
  amount : Nat := 0

variable (decode : σ → List α → Outcome σ ω)

/-- Take pieces while there is something left and as much as was asked for. -/
def decodeLoop : Nat → Reader α σ → Reader α σ × List ω
  | 0, r => (r, [])
  | turns + 1, r =>
      if r.buffer = [] ∨ r.buffer.length < r.amount then (r, [])
      else
        match decode r.state r.buffer with
        | .wait state amount => ({ r with state := state, amount := amount }, [])
        | .done state consumed results =>
            let (last, later) := decodeLoop turns
              { state := state, buffer := r.buffer.drop consumed }
            (last, results ++ later)

/-- Every turn but the last takes a byte or more. -/
def read (r : Reader α σ) (bytes : List α) : Reader α σ × List ω :=
  decodeLoop decode (r.buffer ++ bytes).length
    { r with buffer := r.buffer ++ bytes }

def readAll : Reader α σ → List (List α) → Reader α σ × List ω
  | r, [] => (r, [])
  | r, bytes :: rest =>
      let (next, results) := read decode r bytes
      let (last, later) := readAll next rest
      (last, results ++ later)

/-- In every state with `Pre` the parser takes the piece from the front, and a
part of it only makes it ask for more. -/
structure Takes (Pre : σ → Prop) (piece : List α) (after : σ)
    (results : List ω) : Prop where
  nonempty : piece ≠ []
  whole : ∀ s rest, Pre s →
    decode s (piece ++ rest) = .done after piece.length results
  part : ∀ s front back, Pre s → piece = front ++ back → front ≠ [] →
    back ≠ [] → ∃ s' amount, decode s front = .wait s' amount ∧ Pre s' ∧
      front.length < amount ∧ amount ≤ piece.length

variable {decode} in
theorem Takes.ne_nil {Pre : σ → Prop} {piece : List α} {after : σ}
    {results : List ω} (takes : Takes decode Pre piece after results) :
    0 < piece.length :=
  List.length_pos_iff.mpr takes.nonempty

/-- From a state the pieces are taken one after the other. -/
inductive Stream : σ → List (List α × List ω) → σ → Prop where
  | nil (s : σ) : Stream s [] s
  | cons {Pre : σ → Prop} {s after final : σ} {piece : List α}
      {results : List ω} {rest : List (List α × List ω)}
      (takes : Takes decode Pre piece after results) (expects : Pre s)
      (later : Stream after rest final) :
      Stream s ((piece, results) :: rest) final

/-- A reader that waits for the rest of the first of some pieces. -/
structure Awaits (pieces : List (List α × List ω)) (r : Reader α σ) :
    Prop where
  inside : ∀ piece results rest, pieces = (piece, results) :: rest →
    ∃ back, back ≠ [] ∧ piece = r.buffer ++ back ∧ r.amount ≤ piece.length
  waits : r.buffer = [] ∨ r.buffer.length < r.amount

variable {decode}

/-- The bytes at hand contain the first piece, or are a part of it. -/
theorem splitPiece {buffer missing piece others : List α}
    (bytes : buffer ++ missing = piece ++ others) :
    (∃ more, buffer = piece ++ more ∧ more ++ missing = others) ∨
      ∃ back, back ≠ [] ∧ piece = buffer ++ back := by
  rcases List.append_eq_append_iff.mp bytes with
    ⟨back, split, rest⟩ | ⟨more, split, rest⟩
  · by_cases none : back = []
    · refine .inl ⟨[], ?_, ?_⟩
      · rw [split, none, List.append_nil, List.append_nil]
      · rw [rest, none]
        rfl
    · exact .inr ⟨back, none, split⟩
  · exact .inl ⟨more, split, rest.symm⟩

/-- A reader stops when it has nothing or less than it asked for. -/
theorem decodeLoop_idle {r : Reader α σ}
    (idle : r.buffer = [] ∨ r.buffer.length < r.amount) (turns : Nat) :
    decodeLoop decode turns r = (r, []) := by
  cases turns with
  | zero => rfl
  | succ turns => rw [decodeLoop, if_pos idle]

/-- The pieces that some bytes complete are taken, and the reader waits for
the rest of the next. -/
theorem Stream.decodeLoop {s final : σ} {pieces : List (List α × List ω)}
    (stream : Stream decode s pieces final) :
    ∀ {r : Reader α σ} {missing : List α} {turns : Nat}, r.state = s →
      r.buffer.length ≤ turns →
      (∀ piece results rest, pieces = (piece, results) :: rest →
        r.amount ≤ piece.length) →
      r.buffer ++ missing = (pieces.map Prod.fst).flatten →
      ∃ (taken left : List (List α × List ω)) (last : Reader α σ),
        pieces = taken ++ left ∧
        Restarting.decodeLoop decode turns r =
          (last, (taken.map Prod.snd).flatten) ∧
        Stream decode last.state left final ∧ Awaits left last ∧
        last.buffer ++ missing = (left.map Prod.fst).flatten := by
  induction stream with
  | nil s =>
      intro r missing turns same _ _ bytes
      have empty : r.buffer = [] := (List.append_eq_nil_iff.mp bytes).1
      refine ⟨[], [], r, rfl, decodeLoop_idle (.inl empty) turns, ?_,
        ⟨fun _ _ _ none => (nomatch none), .inl empty⟩, bytes⟩
      rw [same]
      exact .nil s
  | cons takes expects later inductionHypothesis =>
      rename_i Pre s after final piece results rest
      intro r missing turns same enough asked bytes
      subst same
      have amountFits := asked piece results rest rfl
      have bytesHere : r.buffer ++ missing =
          piece ++ (rest.map Prod.fst).flatten := bytes
      by_cases idle : r.buffer = [] ∨ r.buffer.length < r.amount
      · refine ⟨[], _, r, rfl, decodeLoop_idle idle turns,
          .cons takes expects later, ⟨?_, idle⟩, bytes⟩
        intro piece results rest same
        cases same
        rcases splitPiece bytesHere with ⟨more, split, _⟩ | ⟨back, some, split⟩
        · have positive := takes.ne_nil
          have length := congrArg List.length split
          rw [List.length_append] at length
          rcases idle with empty | short
          · rw [empty, List.length_nil] at length
            omega
          · omega
        · exact ⟨back, some, split, amountFits⟩
      · obtain ⟨nonempty, _⟩ := not_or.mp idle
        have positive := List.length_pos_iff.mpr nonempty
        obtain ⟨turns, rfl⟩ : ∃ n, turns = n + 1 := ⟨turns - 1, by omega⟩
        rw [Restarting.decodeLoop, if_neg idle]
        rcases splitPiece bytesHere with
          ⟨more, split, others⟩ | ⟨back, some, split⟩
        · have taken := takes.whole r.state more expects
          rw [← split] at taken
          have shorter : more.length ≤ turns := by
            have length := congrArg List.length split
            have positive := takes.ne_nil
            rw [List.length_append] at length
            omega
          obtain ⟨taken', left, last, pieces, looped, stream, awaits,
              bytesLeft⟩ := inductionHypothesis
            (r := { state := after, buffer := more }) rfl shorter
            (fun _ _ _ _ => Nat.zero_le _) others
          refine ⟨(piece, results) :: taken', left, last, ?_, ?_, stream,
            awaits, bytesLeft⟩
          · rw [pieces, List.cons_append]
          · have dropped : r.buffer.drop piece.length = more := by
              rw [split, List.drop_left]
            simp only [taken, dropped, looped, List.map_cons,
              List.flatten_cons]
        · obtain ⟨s', amount, waiting, still, short, bound⟩ :=
            takes.part r.state r.buffer back expects split nonempty some
          refine ⟨[], _, { r with state := s', amount := amount }, rfl, ?_,
            .cons takes still later, ⟨?_, .inr short⟩, bytes⟩
          · simp only [waiting]
            rfl
          · intro piece results rest same
            cases same
            exact ⟨back, some, split, bound⟩

/-- One read of a reader that waits in the middle of a stream. -/
theorem Stream.read {final : σ} {pieces : List (List α × List ω)}
    {r : Reader α σ} (stream : Stream decode r.state pieces final)
    (awaits : Awaits pieces r) {bytes missing : List α}
    (split : r.buffer ++ (bytes ++ missing) =
      (pieces.map Prod.fst).flatten) :
    ∃ (taken left : List (List α × List ω)) (last : Reader α σ),
      pieces = taken ++ left ∧
      Restarting.read decode r bytes =
        (last, (taken.map Prod.snd).flatten) ∧
      Stream decode last.state left final ∧ Awaits left last ∧
      last.buffer ++ missing = (left.map Prod.fst).flatten := by
  rw [← List.append_assoc] at split
  refine stream.decodeLoop (r := { r with buffer := r.buffer ++ bytes }) rfl
    (le_refl _) ?_ split
  intro piece results rest same
  obtain ⟨_, _, _, bound⟩ := awaits.inside piece results rest same
  exact bound

/-- However a stream is cut, all of it is taken in order. -/
theorem Stream.readAll (chunks : List (List α)) :
    ∀ {pieces : List (List α × List ω)} {final : σ} {r : Reader α σ},
      Stream decode r.state pieces final → Awaits pieces r →
      r.buffer ++ chunks.flatten = (pieces.map Prod.fst).flatten →
      ∃ last, Restarting.readAll decode r chunks =
          (last, (pieces.map Prod.snd).flatten) ∧
        last.state = final ∧ last.buffer = [] := by
  induction chunks with
  | nil =>
      intro pieces final r stream awaits split
      rw [List.flatten_nil, List.append_nil] at split
      rcases pieces with _ | ⟨⟨piece, results⟩, rest⟩
      · cases stream
        exact ⟨r, rfl, rfl, split⟩
      · obtain ⟨back, some, whole, _⟩ := awaits.inside piece results rest rfl
        have length := congrArg List.length split
        have positive := List.length_pos_iff.mpr some
        rw [whole, List.map_cons, List.flatten_cons] at length
        simp only [List.length_append] at length
        omega
  | cons bytes rest inductionHypothesis =>
      intro pieces final r stream awaits split
      rw [List.flatten_cons] at split
      obtain ⟨taken, left, next, pieces, readHere, streamLeft, awaitsLeft,
        bytesLeft⟩ := stream.read awaits split
      obtain ⟨last, readLater, state, empty⟩ :=
        inductionHypothesis streamLeft awaitsLeft bytesLeft
      refine ⟨last, ?_, state, empty⟩
      rw [Restarting.readAll, readHere, pieces]
      simp only [readLater, List.map_append, List.flatten_append]

/-- A fresh reader in front of a stream. -/
theorem Stream.readAll_fresh {s final : σ} {pieces : List (List α × List ω)}
    (stream : Stream decode s pieces final) {chunks : List (List α)}
    (cut : chunks.flatten = (pieces.map Prod.fst).flatten) :
    ∃ last, Restarting.readAll decode { state := s } chunks =
        (last, (pieces.map Prod.snd).flatten) ∧
      last.state = final ∧ last.buffer = [] := by
  refine Stream.readAll chunks (r := { state := s }) stream ⟨?_, .inl rfl⟩ cut
  intro piece results rest same
  subst same
  cases stream with
  | cons takes expects later =>
      exact ⟨piece, takes.nonempty, rfl, Nat.zero_le _⟩

/-- Streams one after the other. -/
theorem Stream.append {s middle final : σ}
    {first second : List (List α × List ω)}
    (stream : Stream decode s first middle)
    (later : Stream decode middle second final) :
    Stream decode s (first ++ second) final := by
  induction stream with
  | nil s => exact later
  | cons takes expects _ inductionHypothesis =>
      exact .cons takes expects (inductionHypothesis later)

/-! ## Any bytes -/

/-- From good states the parser comes to good states; it takes a byte or more,
or it asks for more than it has, but not for more than `bound`. -/
structure Bounded (decode : σ → List α → Outcome σ ω) (Good : σ → Prop)
    (bound : Nat) : Prop where
  wait : ∀ {s s' bytes amount}, Good s → bytes ≠ [] →
    decode s bytes = .wait s' amount →
    Good s' ∧ bytes.length < amount ∧ amount ≤ bound
  done : ∀ {s s' bytes consumed results}, Good s → bytes ≠ [] →
    decode s bytes = .done s' consumed results → Good s' ∧ 0 < consumed

/-- A reader that has taken what it can. -/
structure Idle (Good : σ → Prop) (bound : Nat) (r : Reader α σ) : Prop where
  good : Good r.state
  waits : r.buffer = [] ∨ r.buffer.length < r.amount
  amount : r.amount ≤ bound

theorem Bounded.decodeLoop {Good : σ → Prop} {bound : Nat}
    (bounded : Bounded decode Good bound) (turns : Nat) :
    ∀ {r : Reader α σ}, r.buffer.length ≤ turns → Good r.state →
      r.amount ≤ bound →
      Idle Good bound (Restarting.decodeLoop decode turns r).1 := by
  induction turns with
  | zero =>
      intro r enough good amount
      have empty : r.buffer = [] := List.length_eq_zero_iff.mp (by omega)
      exact ⟨good, .inl empty, amount⟩
  | succ turns inductionHypothesis =>
      intro r enough good amount
      rw [Restarting.decodeLoop]
      by_cases idle : r.buffer = [] ∨ r.buffer.length < r.amount
      · rw [if_pos idle]
        exact ⟨good, idle, amount⟩
      · obtain ⟨some, _⟩ := not_or.mp idle
        rw [if_neg idle]
        cases outcome : decode r.state r.buffer with
        | wait state asked =>
            obtain ⟨goodStill, more, bound⟩ := bounded.wait good some outcome
            exact ⟨goodStill, .inr more, bound⟩
        | done state consumed results =>
            obtain ⟨goodStill, taken⟩ := bounded.done good some outcome
            refine inductionHypothesis ?_ goodStill (Nat.zero_le bound)
            have positive := List.length_pos_iff.mpr some
            rw [List.length_drop]
            omega

theorem Bounded.readAll {Good : σ → Prop} {bound : Nat}
    (bounded : Bounded decode Good bound) (chunks : List (List α)) :
    ∀ {r : Reader α σ}, Idle Good bound r →
      Idle Good bound (Restarting.readAll decode r chunks).1 := by
  induction chunks with
  | nil =>
      intro r idle
      exact idle
  | cons bytes rest inductionHypothesis =>
      intro r idle
      exact inductionHypothesis
        (bounded.decodeLoop _ (le_refl _) idle.good idle.amount)

end GroupVoip.Library.Restarting
