import FeatureLock.Proofs.Lock.Stage

/-!
# Operations side by side

Any number of operations share one service, one store and one clock.  Each of
them waits for the answer to its next question.  A schedule says, moment by
moment, whose question is answered or how the clock is set.  One answer is one
atomic step; between two of them anything may happen.

## Main Definitions

- `Flight`, `Event`, `Flight.step`: operations in flight, and what can happen to
  them
- `Workload`: a store, the operations and a schedule
- `Workload.after`: the operations in flight after some moments; `rows`, `now`:
  what is stored then, and what time it is
- `Workload.MakesCall`, `ReadsClock`, `IsLastCall`, `Answers`: what an operation
  does in the course of a schedule
- `Workload.Forward`: the clock is never set back
- `Workload.stage`: the stage of an operation after some moments

Main statement: `Workload.tracks`, whose consequences `rows_of_turn`, `asks_iff` and
`answers_iff` replace the programs by their stages.

## Design Notes

A schedule goes on for ever.  A finite run is the beginning of one: it may be
continued with turns of finished operations, which change nothing.  All operations
are in flight from the start; one that begins later is one whose first turn comes
later, since an operation sees nothing of the world before it asks.
-/

namespace FeatureLock

/-- What happens at a moment: an operation has its question answered, or the clock is set. -/
inductive Event (ι : Type) where
  | turn (i : ι)
  | setClock (now : Instant)

/-- Operations in flight: the session that they share, and what is left of each. -/
structure Flight (ι : Type) where
  session : Session
  pending : ι → Program Ask Ask.Answer (Except Failure Reply)

/-- **What one event does.**  A turn of a finished operation does nothing. -/
def Flight.step {ι : Type} [DecidableEq ι] (x : Flight ι) : Event ι → Flight ι
  | .turn i =>
    match x.pending i with
    | .done _ => x
    | .ask q next =>
      ⟨(x.session.answer q).2, Function.update x.pending i (next (x.session.answer q).1)⟩
  | .setClock now => { x with session := { x.session with now := now } }

/-- Operations over a store that was filled by calls, and the order in which they make their
questions. -/
structure Workload (ι : Type) where
  service : Service
  backend : Backend
  /-- the calls that filled the store -/
  written : List Call
  start : Instant
  command : ι → Command
  schedule : Nat → Event ι

namespace Workload

variable {ι : Type} [DecidableEq ι]

/-- The operations before their first questions. -/
def initial (w : Workload ι) : Flight ι where
  session := .start w.service (w.backend.empty.after w.written) w.start
  pending i := w.service.perform (w.command i)

/-- The operations after some moments. -/
def after (w : Workload ι) : Nat → Flight ι
  | 0 => w.initial
  | n + 1 => (w.after n).step (w.schedule n)

/-- What is stored after some moments, and what time it is then. -/
def ledger (w : Workload ι) (n : Nat) : Ledger :=
  (w.after n).session.ledger

/-- What is stored after some moments. -/
def rows (w : Workload ι) (n : Nat) : Contents :=
  (w.ledger n).rows

/-- What time it is after some moments. -/
def now (w : Workload ι) (n : Nat) : Instant :=
  (w.ledger n).now

/-- The clock is never set back. -/
def Forward (w : Workload ι) : Prop :=
  ∀ n, w.now n ≤ w.now (n + 1)

/-- An operation has a question answered at a moment. -/
def Asks (w : Workload ι) (i : ι) (n : Nat) (q : Ask) : Prop :=
  w.schedule n = .turn i ∧ ∃ next, (w.after n).pending i = .ask q next

/-- An operation makes a call at a moment. -/
def MakesCall (w : Workload ι) (i : ι) (n : Nat) (c : Call) : Prop :=
  w.Asks i n (.call c)

/-- An operation reads the clock at a moment. -/
def ReadsClock (w : Workload ι) (i : ι) (n : Nat) : Prop :=
  w.Asks i n .clock

/-- An operation makes a call at a moment, and none after it. -/
def IsLastCall (w : Workload ι) (i : ι) (n : Nat) : Prop :=
  (∃ c, w.MakesCall i n c) ∧ ∀ m, n < m → ∀ c, ¬ w.MakesCall i m c

/-- An operation comes to a result. -/
def Answers (w : Workload ι) (i : ι) (result : Except Failure Reply) : Prop :=
  ∃ n, (w.after n).pending i = .done result

/-! ### Stages -/

/-- The stage of an operation after some moments. -/
def stage (w : Workload ι) (i : ι) : Nat → Stage
  | 0 => .first w.service (w.command i)
  | n + 1 =>
    match w.schedule n with
    | .turn j =>
      if j = i then ((w.stage i n).turn (w.command i) (w.ledger n)).1 else w.stage i n
    | .setClock _ => w.stage i n

end Workload

/-- **A turn of an operation that stands at a stage** is the turn of the stage. -/
theorem Flight.step_turn {ι : Type} [DecidableEq ι] {b : Backend} {x : Flight ι}
    (plain : x.session.IsPlain b) {i : ι} {c : Command} {st : Stage}
    (stands : x.pending i = st.program c) :
    (x.step (.turn i)).session.IsPlain b ∧
      (x.step (.turn i)).session.ledger =
        ⟨(st.turn c x.session.ledger).2, x.session.now⟩ ∧
      (x.step (.turn i)).pending =
        Function.update x.pending i ((st.turn c x.session.ledger).1.program c) := by
  cases left : x.pending i with
  | done result =>
    -- nothing is left to ask, so neither the flight nor the stage moves
    obtain rfl : st = .finished result :=
      Stage.eq_finished_of_program (stands.symm.trans left)
    simp only [step, left]
    refine ⟨plain, rfl, ?_⟩
    rw [Stage.turn, ← stands, Function.update_eq_self]
  | ask q next =>
    rw [left] at stands
    obtain ⟨continues, ledger⟩ := Stage.program_turn stands.symm x.session.ledger
    obtain ⟨same, ledger'⟩ := plain.answer q
    simp only [step, left]
    refine ⟨plain.after_answer q, ledger'.trans ledger, ?_⟩
    rw [same, continues]

namespace Workload

variable {ι : Type} [DecidableEq ι] (w : Workload ι)

/-- **The stages keep track of the programs**, and the session stays plain. -/
theorem tracks (n : Nat) :
    (w.after n).session.IsPlain w.backend ∧
      ∀ i, (w.after n).pending i = (w.stage i n).program (w.command i) := by
  -- a turn answers one program and makes one stage go on; all others stay where they are
  induction n with
  | zero =>
    have kept := (Store.isKept_empty w.backend).after w.written
    exact ⟨Session.isPlain_start w.service kept w.start, fun i =>
      w.service.perform_eq_program (w.command i)⟩
  | succ n ih =>
    obtain ⟨plain, stands⟩ := ih
    cases event : w.schedule n with
    | turn j =>
      obtain ⟨plain', -, pending⟩ := Flight.step_turn plain (stands j)
      simp only [after, stage, event]
      refine ⟨plain', fun i => ?_⟩
      rw [pending]
      by_cases h : j = i
      · subst h
        rw [Function.update_self, if_pos rfl]
        rfl
      · rw [Function.update_of_ne (Ne.symm h), if_neg h, stands i]
    | setClock t =>
      simp only [after, stage, event, Flight.step]
      exact ⟨⟨plain.kept, plain.quiet⟩, stands⟩

theorem key_of_rows {n : Nat} {k : Key} {f : Feature} (found : w.rows n k = some f) : f.key = k :=
  (w.tracks n).1.kept.key_of_contents found

/-! ### One moment -/

variable {w} {n : Nat} {i : ι}

theorem ledger_of_turn (turn : w.schedule n = .turn i) :
    w.ledger (n + 1) =
      ⟨((w.stage i n).turn (w.command i) (w.ledger n)).2, w.now n⟩ := by
  obtain ⟨plain, stands⟩ := w.tracks n
  obtain ⟨-, ledger, -⟩ := Flight.step_turn plain (stands i)
  simp only [Workload.ledger, after, turn]
  exact ledger

theorem rows_of_turn (turn : w.schedule n = .turn i) :
    w.rows (n + 1) = ((w.stage i n).turn (w.command i) ⟨w.rows n, w.now n⟩).2 :=
  congrArg Ledger.rows (ledger_of_turn turn)

theorem now_of_turn (turn : w.schedule n = .turn i) : w.now (n + 1) = w.now n := by
  rw [now, ledger_of_turn turn]

theorem rows_of_setClock {t : Instant} (event : w.schedule n = .setClock t) :
    w.rows (n + 1) = w.rows n := by
  simp only [rows, ledger, after, event]
  rfl

theorem stage_of_turn (turn : w.schedule n = .turn i) :
    w.stage i (n + 1) = ((w.stage i n).turn (w.command i) ⟨w.rows n, w.now n⟩).1 := by
  simp only [stage, turn, if_true]
  rfl

theorem stage_of_not_turn (other : w.schedule n ≠ .turn i) : w.stage i (n + 1) = w.stage i n := by
  cases event : w.schedule n with
  | turn j =>
    have ne : j ≠ i := fun h => other (event.trans (congrArg Event.turn h))
    simp only [stage, event, ne, if_false]
  | setClock t => simp only [stage, event]

/-- A finished operation stays finished. -/
theorem stage_of_finished {result : Except Failure Reply}
    (finished : w.stage i n = .finished result)
    {m : Nat} (le : n ≤ m) : w.stage i m = .finished result := by
  induction le with
  | refl => exact finished
  | @step m _ ih =>
    by_cases turn : w.schedule m = .turn i
    · rw [stage_of_turn turn, ih, Stage.turn]
    · rw [stage_of_not_turn turn, ih]

/-- **The question that an operation has answered at a moment** is the question of its stage. -/
theorem asks_iff {q : Ask} :
    w.Asks i n q ↔ w.schedule n = .turn i ∧ (w.stage i n).question (w.command i) = some q := by
  rw [Asks, (w.tracks n).2 i, Stage.exists_program_eq_ask_iff]

/-- **An operation comes to the results of its finished stages.** -/
theorem answers_iff {result : Except Failure Reply} :
    w.Answers i result ↔ ∃ n, w.stage i n = .finished result := by
  constructor
  · rintro ⟨n, done⟩
    rw [(w.tracks n).2 i] at done
    exact ⟨n, Stage.eq_finished_of_program done⟩
  · rintro ⟨n, finished⟩
    refine ⟨n, ?_⟩
    rw [(w.tracks n).2 i, finished]
    rfl

/-! ### A race -/

/-- A read finds a lock that is expired and reads the clock; then the feature is locked anew, and
only then the read goes on to release it. -/
def race : Workload Bool where
  service := ⟨.empty, standardDuration⟩
  backend := .memory
  written := [.insert ⟨⟨1, "alice", "api"⟩, true, 10, [], []⟩]
  start := 20
  command
    | true => .read ⟨1, "alice", "api"⟩
    | false => .lock ⟨1, "alice", "api"⟩ none ["fraud"]
  schedule
    | 2 => .turn false
    | _ => .turn true

theorem race_forward : race.Forward := by
  have turn : ∀ n, ∃ i, race.schedule n = .turn i := by
    intro n
    by_cases h : n = 2
    · exact ⟨false, by rw [h]; rfl⟩
    · exact ⟨true, by simp [race]⟩
  intro n
  obtain ⟨i, event⟩ := turn n
  rw [now_of_turn event]
  exact Int64.le_refl _

end Workload

end FeatureLock
