import GroupVoip.Library.Runs

/-!
# Incremental framing

A framer reads a stream of bytes in records.  In every state it waits for a
known number of bytes; when its buffer holds them it fires, empties the buffer
and moves to the next state.  Programs run a framer over whatever chunk has
arrived: the loop copies as much as the state still needs, fires when that is
enough, and goes round until the chunk is used up.

The meaning of a framer is the fold of `push`, which takes one byte.  The
chunk loop agrees with it, so the way a stream is cut does not matter.
-/

namespace GroupVoip.Library.Framing

open GroupVoip.Library.Runs

/-- `need` is the number of bytes a state waits for and `fire` what it does
with them.  A state may wait for nothing, but not twice in a row. -/
structure Framer (β σ ε : Type) where
  need : σ → Nat
  fire : σ → List β → Except ε σ
  progress : ∀ {s s' : σ}, need s = 0 → fire s [] = .ok s' → 0 < need s'

namespace Framer

variable {β σ ε : Type}

/-- A state together with the bytes collected for it.  The buffer of a state
is never already full: a full buffer fires at once. -/
@[ext]
structure Config (f : Framer β σ ε) where
  state : σ
  buf : List β
  ready : buf.length < f.need state ∨ buf = []

/-- A state with an empty buffer. -/
def fresh (f : Framer β σ ε) (s : σ) : f.Config :=
  ⟨s, [], .inr rfl⟩

@[simp]
theorem fresh_state (f : Framer β σ ε) (s : σ) : (f.fresh s).state = s :=
  rfl

@[simp]
theorem fresh_buf (f : Framer β σ ε) (s : σ) : (f.fresh s).buf = [] :=
  rfl

theorem Config.eq_fresh {f : Framer β σ ε} {c : f.Config}
    (empty : c.buf = []) : c = f.fresh c.state := by
  ext1
  · rfl
  · exact empty

theorem Config.buf_eq_nil {f : Framer β σ ε} {c : f.Config}
    (nothing : f.need c.state = 0) : c.buf = [] := by
  rcases c.ready with short | empty
  · omega
  · exact empty

theorem Config.length_lt {f : Framer β σ ε} {c : f.Config}
    (waiting : 0 < f.need c.state) : c.buf.length < f.need c.state := by
  rcases c.ready with short | empty
  · exact short
  · simpa [empty] using waiting

/-! ## One byte at a time -/

/-- A state that waits for nothing fires before the next byte is looked at. -/
def settle (f : Framer β σ ε) (c : f.Config) : Except ε f.Config :=
  if f.need c.state = 0 then (f.fire c.state c.buf).map f.fresh else .ok c

def absorb (f : Framer β σ ε) (c : f.Config) (b : β) : Except ε f.Config :=
  if full : f.need c.state ≤ c.buf.length + 1 then
    (f.fire c.state (c.buf ++ [b])).map f.fresh
  else
    .ok ⟨c.state, c.buf ++ [b], .inl (by simpa using full)⟩

def push (f : Framer β σ ε) (c : f.Config) (b : β) : Except ε f.Config :=
  (f.settle c).bind fun settled => f.absorb settled b

/-- The meaning of a framer on a stream of bytes. -/
def feed (f : Framer β σ ε) (c : f.Config) (bytes : List β) :
    Except ε f.Config :=
  run f.push c bytes

@[simp]
theorem feed_nil (f : Framer β σ ε) (c : f.Config) : f.feed c [] = .ok c :=
  rfl

theorem feed_append (f : Framer β σ ε) (c : f.Config) (first second : List β) :
    f.feed c (first ++ second) =
      (f.feed c first).bind fun middle => f.feed middle second :=
  run_append f.push c first second

theorem settle_of_pos {f : Framer β σ ε} {c : f.Config}
    (waiting : 0 < f.need c.state) : f.settle c = .ok c := by
  rw [settle, if_neg (by omega)]

theorem settle_of_zero {f : Framer β σ ε} {c : f.Config}
    (nothing : f.need c.state = 0) :
    f.settle c = (f.fire c.state []).map f.fresh := by
  rw [settle, if_pos nothing, Config.buf_eq_nil nothing]

theorem need_pos_of_settle {f : Framer β σ ε} {c settled : f.Config}
    (outcome : f.settle c = .ok settled) : 0 < f.need settled.state := by
  by_cases nothing : f.need c.state = 0
  · rw [settle_of_zero nothing] at outcome
    cases fired : f.fire c.state [] with
    | error stopped =>
        rw [fired] at outcome
        cases outcome
    | ok next =>
        rw [fired] at outcome
        cases outcome
        exact f.progress nothing fired
  · rw [settle_of_pos (by omega)] at outcome
    cases outcome
    omega

/-- Settling first makes no difference to the bytes that follow. -/
theorem feed_cons_settle (f : Framer β σ ε) (c : f.Config)
    (b : β) (rest : List β) :
    f.feed c (b :: rest) =
      (f.settle c).bind fun settled => f.feed settled (b :: rest) := by
  cases outcome : f.settle c with
  | error stopped =>
      simp [feed, push, outcome, Except.bind]
  | ok settled =>
      have again : f.settle settled = .ok settled :=
        settle_of_pos (need_pos_of_settle outcome)
      simp [feed, push, outcome, again, Except.bind]

theorem feed_unfilled {f : Framer β σ ε} (bytes : List β) :
    ∀ (c : f.Config)
      (short : c.buf.length + bytes.length < f.need c.state),
      f.feed c bytes =
        .ok ⟨c.state, c.buf ++ bytes, .inl (by simpa using short)⟩ := by
  induction bytes with
  | nil =>
      intro c short
      rw [feed_nil]
      congr 1
      ext1
      · rfl
      · simp
  | cons b rest inductionHypothesis =>
      intro c short
      have longer : c.buf.length + 1 < f.need c.state := by
        simp only [List.length_cons] at short
        omega
      have pushed :
          f.push c b =
            .ok ⟨c.state, c.buf ++ [b], .inl (by simpa using longer)⟩ := by
        rw [push, settle_of_pos (by omega)]
        simp only [Except.bind, absorb]
        rw [dif_neg (by omega)]
      rw [feed, run_cons, pushed]
      have tailShort :
          (c.buf ++ [b]).length + rest.length < f.need c.state := by
        simp only [List.length_cons, List.length_append,
          List.length_nil] at short ⊢
        omega
      have collected := inductionHypothesis
        ⟨c.state, c.buf ++ [b], .inl (by simpa using longer)⟩ tailShort
      simp only [Except.bind]
      rw [← feed, collected]
      congr 1
      ext1
      · rfl
      · simp

/-- The bytes that fill the buffer exactly make the framer fire once. -/
theorem feed_complete {f : Framer β σ ε} {c : f.Config} {bytes : List β}
    (nonempty : bytes ≠ [])
    (exactFit : c.buf.length + bytes.length = f.need c.state) :
    f.feed c bytes = (f.fire c.state (c.buf ++ bytes)).map f.fresh := by
  obtain ⟨front, last, rfl⟩ : ∃ front last, bytes = front ++ [last] :=
    ⟨bytes.dropLast, bytes.getLast nonempty,
      (List.dropLast_concat_getLast nonempty).symm⟩
  have short : c.buf.length + front.length < f.need c.state := by
    simp only [List.length_append, List.length_cons,
      List.length_nil] at exactFit
    omega
  rw [feed_append, feed_unfilled front c short]
  simp only [Except.bind, feed, run_cons, run_nil, push]
  rw [settle_of_pos (by simp only; omega)]
  simp only [absorb]
  rw [dif_pos (by
    simp only [List.length_append, List.length_cons,
      List.length_nil] at exactFit ⊢
    omega)]
  simp only [List.append_assoc]
  cases f.fire c.state (c.buf ++ (front ++ [last])) <;> rfl

/-- A whole record read from an empty buffer fires once. -/
theorem feed_record {f : Framer β σ ε} {s : σ} {record : List β}
    (nonempty : record ≠ []) (exactFit : record.length = f.need s)
    (rest : List β) :
    f.feed (f.fresh s) (record ++ rest) =
      (f.fire s record).bind fun next => f.feed (f.fresh next) rest := by
  rw [feed_append, feed_complete nonempty (by simpa using exactFit)]
  simp only [fresh_state, fresh_buf, List.nil_append]
  cases f.fire s record <;> rfl

/-! ## The chunk loop -/

/-- One turn of the loop: copy what the state still needs, as far as the data
goes, and fire when the buffer is full.  Returns the data left over. -/
def iterate (f : Framer β σ ε) (c : f.Config) (data : List β) :
    Except ε (f.Config × List β) :=
  let cpLen := min data.length (f.need c.state - c.buf.length)
  let curBuf := c.buf ++ data.take cpLen
  if full : f.need c.state ≤ curBuf.length then
    (f.fire c.state curBuf).map fun next => (f.fresh next, data.drop cpLen)
  else
    .ok (⟨c.state, curBuf, .inl (by omega)⟩, data.drop cpLen)

/-- The loop over a chunk.  `fuel` bounds the number of turns. -/
def loop (f : Framer β σ ε) : Nat → f.Config → List β → Except ε f.Config
  | 0, c, _ => .ok c
  | _ + 1, c, [] => .ok c
  | fuel + 1, c, b :: rest =>
      (f.iterate c (b :: rest)).bind fun (next, left) => f.loop fuel next left

/-- Read a chunk.  At most every other turn copies nothing, so two turns for
each byte are enough. -/
def read (f : Framer β σ ε) (c : f.Config) (data : List β) :
    Except ε f.Config :=
  f.loop (2 * data.length) c data

theorem iterate_of_zero {f : Framer β σ ε} {c : f.Config}
    (nothing : f.need c.state = 0) (data : List β) :
    f.iterate c data =
      (f.fire c.state []).map fun next => (f.fresh next, data) := by
  have empty : c.buf = [] := Config.buf_eq_nil nothing
  simp [iterate, nothing, empty]

/-- A turn that waits for bytes uses up some data and agrees with `feed`. -/
theorem iterate_of_pos {f : Framer β σ ε} {c : f.Config}
    (waiting : 0 < f.need c.state) {data : List β} (nonempty : data ≠ []) :
    ∃ used left,
      data = used ++ left ∧ used ≠ [] ∧
        f.iterate c data = (f.feed c used).map fun next => (next, left) := by
  have short := Config.length_lt waiting
  have positive : 0 < data.length := List.length_pos_iff.mpr nonempty
  let cpLen := min data.length (f.need c.state - c.buf.length)
  have cpPositive : 0 < cpLen := by
    simp only [cpLen]
    omega
  refine ⟨data.take cpLen, data.drop cpLen,
    (List.take_append_drop cpLen data).symm, ?_, ?_⟩
  · intro empty
    have length := congrArg List.length empty
    simp only [List.length_take, List.length_nil] at length
    omega
  · have usedLength : (data.take cpLen).length = cpLen := by
      simp [cpLen]
    by_cases enough : f.need c.state - c.buf.length ≤ data.length
    · have fills :
          c.buf.length + (data.take cpLen).length = f.need c.state := by
        rw [usedLength]
        simp only [cpLen]
        omega
      have nonempty : data.take cpLen ≠ [] := by
        intro empty
        rw [empty, List.length_nil] at usedLength
        omega
      rw [feed_complete nonempty fills, iterate]
      rw [dif_pos (by
        rw [List.length_append]
        exact Nat.le_of_eq fills.symm)]
      cases f.fire c.state (c.buf ++ data.take cpLen) <;> rfl
    · have unfilled :
          c.buf.length + (data.take cpLen).length < f.need c.state := by
        rw [usedLength]
        simp only [cpLen]
        omega
      rw [feed_unfilled _ c unfilled, iterate]
      rw [dif_neg (by
        rw [List.length_append]
        exact Nat.not_le.mpr unfilled)]
      rfl

/-- With two turns for each byte the loop reads the whole chunk, and what it
does is what `feed` says. -/
theorem loop_eq_feed (f : Framer β σ ε) :
    ∀ (fuel : Nat) (c : f.Config) (data : List β),
      (2 * data.length ≤ fuel) ∨
        (0 < f.need c.state ∧ 2 * data.length ≤ fuel + 1) →
      f.loop fuel c data = f.feed c data := by
  intro fuel
  induction fuel with
  | zero =>
      intro c data enough
      have empty : data = [] := by
        apply List.eq_nil_of_length_eq_zero
        omega
      rw [empty]
      rfl
  | succ fuel inductionHypothesis =>
      intro c data enough
      cases data with
      | nil =>
          rfl
      | cons b rest =>
          by_cases nothing : f.need c.state = 0
          · rw [loop, iterate_of_zero nothing, feed_cons_settle,
              settle_of_zero nothing]
            cases fired : f.fire c.state [] with
            | error stopped =>
                rfl
            | ok next =>
                exact inductionHypothesis (f.fresh next) (b :: rest) <|
                  Or.inr ⟨f.progress nothing fired, by omega⟩
          · obtain ⟨used, left, split, nonempty, turned⟩ :=
              iterate_of_pos (f := f) (c := c) (by omega)
                (List.cons_ne_nil b rest)
            rw [loop, turned, split, feed_append]
            cases f.feed c used with
            | error stopped =>
                rfl
            | ok next =>
                apply inductionHypothesis next left
                have usedPositive : 0 < used.length :=
                  List.length_pos_iff.mpr nonempty
                have total := congrArg List.length split
                simp only [List.length_append] at total
                left
                omega

theorem read_eq_feed (f : Framer β σ ε) (c : f.Config) (data : List β) :
    f.read c data = f.feed c data :=
  f.loop_eq_feed _ c data (Or.inl (Nat.le_refl _))

def readAll (f : Framer β σ ε) (c : f.Config) (chunks : List (List β)) :
    Except ε f.Config :=
  run f.read c chunks

/-- However the stream is cut, reading the chunks feeds their bytes. -/
theorem readAll_eq_feed (f : Framer β σ ε) (c : f.Config)
    (chunks : List (List β)) :
    f.readAll c chunks = f.feed c chunks.flatten := by
  induction chunks generalizing c with
  | nil =>
      rfl
  | cons chunk rest inductionHypothesis =>
      rw [readAll, run_cons, List.flatten_cons, feed_append, read_eq_feed]
      cases f.feed c chunk with
      | error stopped =>
          rfl
      | ok next =>
          exact inductionHypothesis next

end Framer

end GroupVoip.Library.Framing
