import GroupVoip.Library.Framer

/-!
# Framers that make calls

When a framer fires it may call out to its owner, and what the owner does can
fail.  An emitter says which calls a firing makes, in order, and where the
framer goes next; an owner interprets a call on a state of its own.

The calls do not depend on the owner.  So a stream is first turned into the
list of calls it makes, by the owner that only records them, and any other
owner's final state is that list run in order.
-/

namespace GroupVoip.Library.Framing

open GroupVoip.Library.Runs

/-- `emit` gives the calls of a firing and then the next state or the error
that ends the firing after those calls. -/
structure Emitter (β σ α ε : Type) where
  need : σ → Nat
  emit : σ → List β → List α × Except ε σ
  progress : ∀ {s s' : σ},
    need s = 0 → (emit s []).2 = .ok s' → 0 < need s'

namespace Emitter

variable {β σ α ε μ : Type}

/-- Fire on behalf of an owner: make the calls, then move on. -/
def fireWith (e : Emitter β σ α ε) (act : μ → α → Except ε μ)
    (s : σ × μ) (buf : List β) : Except ε (σ × μ) :=
  (run act s.2 (e.emit s.1 buf).1).bind fun owner =>
    (e.emit s.1 buf).2.map fun next => (next, owner)

theorem fireWith_ok {e : Emitter β σ α ε} {act : μ → α → Except ε μ}
    {s s' : σ} {owner owner' : μ} {buf : List β} :
    e.fireWith act (s, owner) buf = .ok (s', owner') ↔
      run act owner (e.emit s buf).1 = .ok owner' ∧
        (e.emit s buf).2 = .ok s' := by
  simp only [fireWith]
  cases run act owner (e.emit s buf).1 with
  | error stopped => simp [Except.bind]
  | ok reached =>
      cases (e.emit s buf).2 with
      | error stopped => simp [Except.bind, Except.map]
      | ok next => simp [Except.bind, Except.map, and_comm]

def framer (e : Emitter β σ α ε) (act : μ → α → Except ε μ) :
    Framer β (σ × μ) ε where
  need s := e.need s.1
  fire := e.fireWith act
  progress := by
    rintro ⟨s, owner⟩ ⟨s', owner'⟩ nothing fired
    exact e.progress nothing (fireWith_ok.mp fired).2

/-- A record that fills the buffer makes its calls and moves on. -/
theorem feed_record {e : Emitter β σ α ε} {act : μ → α → Except ε μ}
    {s next : σ} (owner : μ) {record : List β} {calls : List α}
    (nonempty : record ≠ []) (exactFit : record.length = e.need s)
    (emitted : e.emit s record = (calls, .ok next)) (rest : List β) :
    (e.framer act).feed ((e.framer act).fresh (s, owner)) (record ++ rest) =
      (run act owner calls).bind fun owner =>
        (e.framer act).feed ((e.framer act).fresh (next, owner)) rest := by
  have fired :
      (e.framer act).fire (s, owner) record =
        (run act owner calls).map fun owner => (next, owner) := by
    simp only [framer, fireWith, emitted]
    cases run act owner calls <;> rfl
  rw [Framer.feed_record nonempty exactFit, fired]
  cases run act owner calls <;> rfl

/-- Feed, and take a state that waits for nothing as finished. -/
def feedSettled (e : Emitter β σ α ε) (act : μ → α → Except ε μ)
    (c : (e.framer act).Config) (bytes : List β) :
    Except ε (e.framer act).Config :=
  ((e.framer act).feed c bytes).bind (e.framer act).settle

/-- What a firing does, whether it moves on or stops. -/
theorem fire_eq {e : Emitter β σ α ε} (act : μ → α → Except ε μ) {s : σ}
    (owner : μ) {record : List β} {calls : List α} {moved : Except ε σ}
    (emitted : e.emit s record = (calls, moved)) :
    (e.framer act).fire (s, owner) record =
      (run act owner calls).bind fun owner =>
        moved.map fun next => (next, owner) := by
  simp only [framer, fireWith, emitted]

/-- A record that fits exactly, empty or not, makes its calls; the rest of the
bytes are for the next state. -/
theorem feedSettled_record {e : Emitter β σ α ε} {act : μ → α → Except ε μ}
    {s : σ} (owner : μ) {record : List β} {calls : List α}
    {moved : Except ε σ} (exactFit : record.length = e.need s)
    (emitted : e.emit s record = (calls, moved)) (rest : List β) :
    e.feedSettled act ((e.framer act).fresh (s, owner)) (record ++ rest) =
      (run act owner calls).bind fun owner => moved.bind fun next =>
        e.feedSettled act ((e.framer act).fresh (next, owner)) rest := by
  have fired := fire_eq act owner emitted
  by_cases empty : record = []
  · rw [empty] at exactFit emitted fired ⊢
    have nothing : e.need s = 0 := exactFit.symm
    have settled :
        (e.framer act).settle ((e.framer act).fresh (s, owner)) =
          ((e.framer act).fire (s, owner) []).map (e.framer act).fresh :=
      Framer.settle_of_zero nothing
    rw [fired] at settled
    rw [feedSettled, List.nil_append]
    cases rest with
    | nil =>
        rw [Framer.feed_nil, Except.bind, settled]
        cases run act owner calls with
        | error stopped => rfl
        | ok reached =>
            cases moved with
            | error stopped => rfl
            | ok next =>
                have waiting : 0 < e.need next := by
                  apply e.progress nothing
                  rw [emitted]
                exact (Framer.settle_of_pos waiting).symm
    | cons b others =>
        rw [Framer.feed_cons_settle, settled]
        cases run act owner calls with
        | error stopped => rfl
        | ok reached => cases moved <;> rfl
  · rw [feedSettled, Framer.feed_record empty exactFit, fired]
    cases run act owner calls with
    | error stopped => rfl
    | ok reached => cases moved <;> rfl

/-- A configuration without an owner. -/
@[ext]
structure Scan (e : Emitter β σ α ε) where
  state : σ
  buf : List β
  ready : buf.length < e.need state ∨ buf = []

def freshScan (e : Emitter β σ α ε) (s : σ) : e.Scan :=
  ⟨s, [], .inr rfl⟩

def Scan.owned {e : Emitter β σ α ε} (c : e.Scan)
    (act : μ → α → Except ε μ) (owner : μ) : (e.framer act).Config :=
  ⟨(c.state, owner), c.buf, c.ready⟩

def scanOf {e : Emitter β σ α ε} {act : μ → α → Except ε μ}
    (c : (e.framer act).Config) : e.Scan :=
  ⟨c.state.1, c.buf, c.ready⟩

theorem owned_inj {e : Emitter β σ α ε} {act : μ → α → Except ε μ}
    {c final : e.Scan} {owner owner' : μ} :
    c.owned act owner = final.owned act owner' ↔
      c = final ∧ owner = owner' := by
  constructor
  · intro same
    have sameScan : scanOf (c.owned act owner) =
        scanOf (final.owned act owner') := congrArg scanOf same
    exact ⟨sameScan, congrArg (fun config => config.state.2) same⟩
  · rintro ⟨rfl, rfl⟩
    rfl

/-! ## Scanning without an owner -/

/-- What a scan makes of some bytes: where it ends and the calls it makes. -/
abbrev Outcome (e : Emitter β σ α ε) : Type :=
  Except ε (e.Scan × List α)

/-- Scan on, keeping the calls made so far. -/
def Outcome.andThen {e : Emitter β σ α ε} (first : e.Outcome)
    (next : e.Scan → e.Outcome) : e.Outcome :=
  first.bind fun (middle, made) =>
    (next middle).map fun (final, calls) => (final, made ++ calls)

theorem Outcome.andThen_ok {e : Emitter β σ α ε} {first : e.Outcome}
    {next : e.Scan → e.Outcome} {final : e.Scan} {all : List α} :
    first.andThen next = .ok (final, all) ↔
      ∃ middle made calls, first = .ok (middle, made) ∧
        next middle = .ok (final, calls) ∧ all = made ++ calls := by
  cases first with
  | error stopped => simp [Outcome.andThen, Except.bind]
  | ok outcome =>
      obtain ⟨middle, made⟩ := outcome
      simp only [Outcome.andThen, Except.bind, map_ok, Except.ok.injEq,
        Prod.mk.injEq]
      constructor
      · rintro ⟨⟨last, calls⟩, later, rfl, rfl⟩
        exact ⟨middle, made, calls, ⟨rfl, rfl⟩, later, rfl⟩
      · rintro ⟨_, _, calls, ⟨rfl, rfl⟩, later, rfl⟩
        exact ⟨(final, calls), later, rfl, rfl⟩

def scanFire (e : Emitter β σ α ε) (s : σ) (buf : List β) : e.Outcome :=
  (e.emit s buf).2.map fun next => (e.freshScan next, (e.emit s buf).1)

def scanSettle (e : Emitter β σ α ε) (c : e.Scan) : e.Outcome :=
  if e.need c.state = 0 then e.scanFire c.state c.buf else .ok (c, [])

def scanAbsorb (e : Emitter β σ α ε) (c : e.Scan) (b : β) : e.Outcome :=
  if full : e.need c.state ≤ c.buf.length + 1 then
    e.scanFire c.state (c.buf ++ [b])
  else
    .ok (⟨c.state, c.buf ++ [b], .inl (by simpa using full)⟩, [])

def scanPush (e : Emitter β σ α ε) (c : e.Scan) (b : β) : e.Outcome :=
  (e.scanSettle c).andThen fun settled => e.scanAbsorb settled b

def scan (e : Emitter β σ α ε) : e.Scan → List β → e.Outcome
  | c, [] => .ok (c, [])
  | c, b :: rest => (e.scanPush c b).andThen fun next => e.scan next rest

/-! ## Owners follow the scan -/

/-- An owner's outcome follows a scan's outcome when it ends in the same
configuration and its state is the calls run in order. -/
def Follows {e : Emitter β σ α ε} (act : μ → α → Except ε μ) (owner : μ)
    (owned : Except ε (e.framer act).Config) (scanned : e.Outcome) : Prop :=
  ∀ (final : e.Scan) (owner' : μ),
    owned = .ok (final.owned act owner') ↔
      ∃ calls, scanned = .ok (final, calls) ∧
        run act owner calls = .ok owner'

theorem Follows.stay {e : Emitter β σ α ε} (act : μ → α → Except ε μ)
    (owner : μ) (c : e.Scan) :
    Follows act owner (.ok (c.owned act owner)) (.ok (c, [])) := by
  intro final owner'
  constructor
  · intro same
    obtain ⟨rfl, rfl⟩ := owned_inj.mp (Except.ok.inj same)
    exact ⟨[], rfl, rfl⟩
  · rintro ⟨calls, same, reached⟩
    cases same
    cases reached
    rfl

theorem Follows.andThen {e : Emitter β σ α ε} {act : μ → α → Except ε μ}
    {owner : μ} {owned : Except ε (e.framer act).Config}
    {scanned : e.Outcome}
    {next : (e.framer act).Config → Except ε (e.framer act).Config}
    {scanNext : e.Scan → e.Outcome}
    (first : Follows act owner owned scanned)
    (second : ∀ (c : e.Scan) (owner : μ),
      Follows act owner (next (c.owned act owner)) (scanNext c)) :
    Follows act owner (owned.bind next) (scanned.andThen scanNext) := by
  intro final owner'
  constructor
  · intro continued
    cases reached : owned with
    | error stopped =>
        rw [reached] at continued
        cases continued
    | ok c =>
        rw [reached] at continued
        obtain ⟨made, scannedFirst, ranFirst⟩ :=
          (first (scanOf c) c.state.2).mp reached
        obtain ⟨calls, scannedSecond, ranSecond⟩ :=
          (second (scanOf c) c.state.2 final owner').mp continued
        refine ⟨made ++ calls, ?_, ?_⟩
        · rw [scannedFirst]
          simp [Outcome.andThen, Except.bind, scannedSecond, Except.map]
        · exact run_append_ok.mpr ⟨_, ranFirst, ranSecond⟩
  · rintro ⟨all, scannedAll, ranAll⟩
    cases reached : scanned with
    | error stopped =>
        rw [reached] at scannedAll
        cases scannedAll
    | ok outcome =>
        obtain ⟨middle, made⟩ := outcome
        rw [reached] at scannedAll
        simp only [Outcome.andThen, Except.bind] at scannedAll
        cases later : scanNext middle with
        | error stopped =>
            rw [later] at scannedAll
            cases scannedAll
        | ok lastOutcome =>
            obtain ⟨last, calls⟩ := lastOutcome
            rw [later] at scannedAll
            cases scannedAll
            obtain ⟨between, ranFirst, ranSecond⟩ := run_append_ok.mp ranAll
            have firstReached :=
              (first middle between).mpr ⟨made, reached, ranFirst⟩
            rw [firstReached]
            exact (second middle between _ owner').mpr
              ⟨calls, later, ranSecond⟩

theorem follows_fire (e : Emitter β σ α ε) (act : μ → α → Except ε μ)
    (owner : μ) (s : σ) (buf : List β) :
    Follows act owner
      (((e.framer act).fire (s, owner) buf).map (e.framer act).fresh)
      (e.scanFire s buf) := by
  intro final owner'
  constructor
  · intro fired
    cases result : (e.framer act).fire (s, owner) buf with
    | error stopped =>
        rw [result] at fired
        cases fired
    | ok reached =>
        obtain ⟨next, last⟩ := reached
        obtain ⟨ran, moved⟩ := fireWith_ok.mp result
        rw [result] at fired
        have same :
            (e.freshScan next).owned act last = final.owned act owner' :=
          Except.ok.inj fired
        obtain ⟨rfl, rfl⟩ := owned_inj.mp same
        refine ⟨_, ?_, ran⟩
        rw [scanFire, moved]
        rfl
  · rintro ⟨calls, scanned, ran⟩
    cases moved : (e.emit s buf).2 with
    | error stopped =>
        rw [scanFire, moved] at scanned
        cases scanned
    | ok next =>
        rw [scanFire, moved] at scanned
        cases scanned
        have fired : (e.framer act).fire (s, owner) buf = .ok (next, owner') :=
          fireWith_ok.mpr ⟨ran, moved⟩
        rw [fired]
        rfl

theorem follows_settle (e : Emitter β σ α ε) (act : μ → α → Except ε μ)
    (owner : μ) (c : e.Scan) :
    Follows act owner ((e.framer act).settle (c.owned act owner))
      (e.scanSettle c) := by
  by_cases nothing : e.need c.state = 0
  · have settled :
        (e.framer act).settle (c.owned act owner) =
          ((e.framer act).fire (c.state, owner) c.buf).map
            (e.framer act).fresh :=
      if_pos nothing
    rw [settled, scanSettle, if_pos nothing]
    exact follows_fire e act owner c.state c.buf
  · have settled :
        (e.framer act).settle (c.owned act owner) = .ok (c.owned act owner) :=
      if_neg nothing
    rw [settled, scanSettle, if_neg nothing]
    exact Follows.stay act owner c

theorem follows_absorb (e : Emitter β σ α ε) (act : μ → α → Except ε μ)
    (owner : μ) (c : e.Scan) (b : β) :
    Follows act owner ((e.framer act).absorb (c.owned act owner) b)
      (e.scanAbsorb c b) := by
  by_cases full : e.need c.state ≤ c.buf.length + 1
  · have absorbed :
        (e.framer act).absorb (c.owned act owner) b =
          ((e.framer act).fire (c.state, owner) (c.buf ++ [b])).map
            (e.framer act).fresh :=
      dif_pos full
    rw [absorbed, scanAbsorb, dif_pos full]
    exact follows_fire e act owner c.state (c.buf ++ [b])
  · have kept : (c.buf ++ [b]).length < e.need c.state := by
      simpa using full
    have absorbed :
        (e.framer act).absorb (c.owned act owner) b =
          .ok (Scan.owned ⟨c.state, c.buf ++ [b], .inl kept⟩ act owner) :=
      dif_neg full
    rw [absorbed, scanAbsorb, dif_neg full]
    exact Follows.stay act owner _

/-- Every owner's run over a stream is the scan of the stream followed by the
scanned calls. -/
theorem follows_feed (e : Emitter β σ α ε) (act : μ → α → Except ε μ)
    (bytes : List β) :
    ∀ (c : e.Scan) (owner : μ),
      Follows act owner ((e.framer act).feed (c.owned act owner) bytes)
        (e.scan c bytes) := by
  induction bytes with
  | nil =>
      intro c owner
      exact Follows.stay act owner c
  | cons b rest inductionHypothesis =>
      intro c owner
      have pushed :
          Follows act owner ((e.framer act).push (c.owned act owner) b)
            (e.scanPush c b) :=
        (follows_settle e act owner c).andThen fun settled settledOwner =>
          follows_absorb e act settledOwner settled b
      exact pushed.andThen inductionHypothesis

/-! ## Scans of known bytes -/

theorem Outcome.andThen_assoc {e : Emitter β σ α ε} (first : e.Outcome)
    (second third : e.Scan → e.Outcome) :
    (first.andThen second).andThen third =
      first.andThen fun c => (second c).andThen third := by
  cases first with
  | error stopped => rfl
  | ok outcome =>
      obtain ⟨middle, made⟩ := outcome
      cases later : second middle with
      | error stopped =>
          simp [Outcome.andThen, later, Except.bind, Except.map]
      | ok next =>
          obtain ⟨last, calls⟩ := next
          cases ended : third last <;>
            simp [Outcome.andThen, later, ended, Except.bind, Except.map]

theorem Outcome.nothing_andThen {e : Emitter β σ α ε} (c : e.Scan)
    (next : e.Scan → e.Outcome) :
    Outcome.andThen (.ok (c, [])) next = next c := by
  cases later : next c <;>
    simp [Outcome.andThen, later, Except.bind, Except.map]

theorem scan_append (e : Emitter β σ α ε) (c : e.Scan)
    (first second : List β) :
    e.scan c (first ++ second) =
      (e.scan c first).andThen fun middle => e.scan middle second := by
  induction first generalizing c with
  | nil =>
      rw [List.nil_append, scan, Outcome.nothing_andThen]
  | cons b rest inductionHypothesis =>
      rw [List.cons_append, scan, scan, Outcome.andThen_assoc]
      simp only [inductionHypothesis]

theorem scan_append_ok {e : Emitter β σ α ε} {c final : e.Scan}
    {first second : List β} {all : List α} :
    e.scan c (first ++ second) = .ok (final, all) ↔
      ∃ middle made calls, e.scan c first = .ok (middle, made) ∧
        e.scan middle second = .ok (final, calls) ∧ all = made ++ calls := by
  rw [scan_append]
  exact Outcome.andThen_ok

/-- The owner that keeps the calls. -/
def record (made : List α) (call : α) : Except ε (List α) :=
  .ok (made ++ [call])

theorem run_record (made calls : List α) :
    run (record (ε := ε)) made calls = .ok (made ++ calls) := by
  induction calls generalizing made with
  | nil => rw [run_nil, List.append_nil]
  | cons call rest inductionHypothesis =>
      rw [run_cons, record, Except.bind, inductionHypothesis,
        List.append_assoc, List.singleton_append]

/-- What the owner that keeps the calls sees is the scan. -/
theorem scan_of_feed {e : Emitter β σ α ε} {c final : e.Scan}
    {bytes : List β} {calls : List α}
    (fed : (e.framer record).feed (c.owned record []) bytes =
      .ok (final.owned record calls)) :
    e.scan c bytes = .ok (final, calls) := by
  obtain ⟨made, scanned, ran⟩ :=
    (follows_feed e record bytes c [] final calls).mp fed
  rw [run_record, List.nil_append, Except.ok.injEq] at ran
  rw [scanned, ran]

/-- A record that fills the buffer makes its calls and moves on. -/
theorem scan_record {e : Emitter β σ α ε} {s next : σ} {bytes : List β}
    {calls : List α} (nonempty : bytes ≠ [])
    (exactFit : bytes.length = e.need s)
    (emitted : e.emit s bytes = (calls, .ok next)) :
    e.scan (e.freshScan s) bytes = .ok (e.freshScan next, calls) := by
  apply scan_of_feed
  have fed : (e.framer record).feed ((e.framer record).fresh (s, []))
      (bytes ++ []) = _ :=
    feed_record [] nonempty exactFit emitted []
  rw [List.append_nil, run_record] at fed
  exact fed

/-- Too few bytes to fill the buffer make no call. -/
theorem scan_unfilled {e : Emitter β σ α ε} {s : σ} {bytes : List β}
    (short : bytes.length < e.need s) :
    ∃ c, e.scan (e.freshScan s) bytes = .ok (c, []) := by
  have room : ((e.framer (record (ε := ε))).fresh (s, [])).buf.length +
      bytes.length < (e.framer (record (ε := ε))).need (s, []) := by
    rw [Framer.fresh_buf, List.length_nil, Nat.zero_add]
    exact short
  have fed := Framer.feed_unfilled (f := e.framer (record (ε := ε))) bytes
    ((e.framer record).fresh (s, [])) room
  refine ⟨⟨s, [] ++ bytes, .inl short⟩, scan_of_feed ?_⟩
  exact fed

/-- Where no state that can be reached makes a call, no bytes make one. -/
theorem scan_silent {e : Emitter β σ α ε} {Q : σ → Prop}
    (silent : ∀ s buf, Q s → ∃ next, e.emit s buf = ([], .ok next) ∧ Q next)
    (bytes : List β) :
    ∀ c : e.Scan, Q c.state →
      ∃ final, e.scan c bytes = .ok (final, []) ∧ Q final.state := by
  have fires (s : σ) (buf : List β) (holds : Q s) :
      ∃ c : e.Scan, e.scanFire s buf = .ok (c, []) ∧ Q c.state := by
    obtain ⟨next, emitted, kept⟩ := silent s buf holds
    refine ⟨e.freshScan next, ?_, kept⟩
    rw [scanFire, emitted]
    rfl
  have settles (c : e.Scan) (holds : Q c.state) :
      ∃ settled : e.Scan, e.scanSettle c = .ok (settled, []) ∧
        Q settled.state := by
    rw [scanSettle]
    split
    · exact fires c.state c.buf holds
    · exact ⟨c, rfl, holds⟩
  have absorbs (c : e.Scan) (b : β) (holds : Q c.state) :
      ∃ next : e.Scan, e.scanAbsorb c b = .ok (next, []) ∧ Q next.state := by
    rw [scanAbsorb]
    split
    · exact fires c.state (c.buf ++ [b]) holds
    · exact ⟨_, rfl, holds⟩
  induction bytes with
  | nil => exact fun c holds => ⟨c, rfl, holds⟩
  | cons b rest inductionHypothesis =>
      intro c holds
      obtain ⟨settled, settle, settledHolds⟩ := settles c holds
      obtain ⟨next, absorb, nextHolds⟩ := absorbs settled b settledHolds
      obtain ⟨final, scanned, finalHolds⟩ := inductionHypothesis next nextHolds
      refine ⟨final, ?_, finalHolds⟩
      rw [scan, scanPush, settle, Outcome.nothing_andThen, absorb,
        Outcome.nothing_andThen, scanned]

/-- What every full buffer gives in a state with an invariant, every call of a
scan has. -/
theorem scan_calls {e : Emitter β σ α ε} {Q : σ → Prop} {P : α → Prop}
    (keeps : ∀ s buf next, Q s → buf.length = e.need s →
      (e.emit s buf).2 = .ok next →
        Q next ∧ ∀ call ∈ (e.emit s buf).1, P call)
    (bytes : List β) :
    ∀ (c final : e.Scan) (calls : List α), Q c.state →
      e.scan c bytes = .ok (final, calls) →
        Q final.state ∧ ∀ call ∈ calls, P call := by
  have fires (s : σ) (buf : List β) (c : e.Scan) (calls : List α)
      (holds : Q s) (full : buf.length = e.need s)
      (fired : e.scanFire s buf = .ok (c, calls)) :
      Q c.state ∧ ∀ call ∈ calls, P call := by
    obtain ⟨next, emitted, same⟩ := map_ok.mp fired
    cases same
    exact keeps s buf next holds full emitted
  have settles (c settled : e.Scan) (calls : List α) (holds : Q c.state)
      (settle : e.scanSettle c = .ok (settled, calls)) :
      (Q settled.state ∧ ∀ call ∈ calls, P call) ∧
        0 < e.need settled.state := by
    rw [scanSettle] at settle
    split at settle
    · rename_i nothing
      have empty : c.buf = [] := by
        rcases c.ready with short | empty
        · omega
        · exact empty
      rw [empty] at settle
      refine ⟨fires c.state [] settled calls holds nothing.symm settle, ?_⟩
      obtain ⟨next, emitted, same⟩ := map_ok.mp settle
      cases same
      exact e.progress nothing emitted
    · rename_i waiting
      cases settle
      exact ⟨⟨holds, by simp⟩, Nat.pos_of_ne_zero waiting⟩
  have absorbs (c next : e.Scan) (b : β) (calls : List α) (holds : Q c.state)
      (waiting : 0 < e.need c.state)
      (absorb : e.scanAbsorb c b = .ok (next, calls)) :
      Q next.state ∧ ∀ call ∈ calls, P call := by
    rw [scanAbsorb] at absorb
    split at absorb
    · rename_i full
      apply fires c.state (c.buf ++ [b]) next calls holds _ absorb
      rw [List.length_append, List.length_singleton]
      rcases c.ready with short | empty
      · omega
      · rw [empty, List.length_nil] at full ⊢
        omega
    · cases absorb
      exact ⟨holds, by simp⟩
  induction bytes with
  | nil =>
      intro c final calls holds scanned
      cases scanned
      exact ⟨holds, by simp⟩
  | cons b rest inductionHypothesis =>
      intro c final calls holds scanned
      obtain ⟨next, made, later, pushed, scanned, isAll⟩ :=
        Outcome.andThen_ok.mp scanned
      obtain ⟨settled, early, late, settle, absorb, isMade⟩ :=
        Outcome.andThen_ok.mp pushed
      obtain ⟨⟨settledHolds, earlyHold⟩, waiting⟩ :=
        settles c settled early holds settle
      obtain ⟨nextHolds, lateHold⟩ :=
        absorbs settled next b late settledHolds waiting absorb
      obtain ⟨finalHolds, laterHold⟩ :=
        inductionHypothesis next final later nextHolds scanned
      refine ⟨finalHolds, ?_⟩
      rw [isAll, isMade]
      simp only [List.forall_mem_append]
      exact ⟨⟨earlyHold, lateHold⟩, laterHold⟩

end Emitter

end GroupVoip.Library.Framing
