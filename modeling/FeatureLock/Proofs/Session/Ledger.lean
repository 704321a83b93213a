import FeatureLock.Proofs.Program
import FeatureLock.Proofs.Store.Backend
import FeatureLock.Session

/-!
# What an operation can see

An operation of the service asks its store and reads the clock.  All it can see
of a session is therefore what the store holds and what time it is.  A `Ledger`
is just that, and a session without hooks over a store that was changed by calls
only answers as its ledger does.

## Main Definitions

- `Ledger`, `Ledger.answer`: the rows and the time, and what they answer
- `Session.ledger`: the ledger of a session
- `Session.IsPlain`: no hook waits, and the store was changed by calls only

Main statements: `Session.IsPlain.answer`, one question, and
`Session.IsPlain.run`, a program of them.
-/

namespace FeatureLock

/-- What is stored, and what time it is. -/
structure Ledger where
  rows : Contents
  now : Instant

/-- What a ledger answers to one question of an operation. -/
def Ledger.answer : (q : Ask) → Ledger → q.Answer × Ledger
  | .call c, l => ((l.rows.answer c).1, { l with rows := (l.rows.answer c).2 })
  | .clock, l => (l.now, l)

namespace Session

/-- The rows and the time of a session. -/
def ledger (s : Session) : Ledger where
  rows := s.store.contents
  now := s.now

/-- No hook waits, and the store was changed by calls only. -/
structure IsPlain (b : Backend) (s : Session) : Prop where
  kept : s.store.IsKept b
  quiet : s.hooks = []

theorem isPlain_start {b : Backend} (service : Service) {store : Store} (kept : store.IsKept b)
    (now : Instant) : (start service store now).IsPlain b :=
  ⟨kept, rfl⟩

/-- Where no hook waits, a call is noted and passed on. -/
theorem answer_call {s : Session} (quiet : s.hooks = []) (c : Call) :
    s.answer (.call c) =
      ((s.store.answer c).1,
        { s with store := (s.store.answer c).2, calls := s.calls ++ [c.kind] }) := by
  simp only [answer, call, record, quiet, List.lookup_nil, forward]
  rfl

namespace IsPlain

variable {b : Backend} {s : Session}

theorem after_answer (h : s.IsPlain b) (q : Ask) : (s.answer q).2.IsPlain b := by
  cases q with
  | call c =>
    rw [answer_call h.quiet]
    exact ⟨h.kept.after_answer c, h.quiet⟩
  | clock => exact h

/-- **A plain session answers as its ledger does.** -/
theorem answer (h : s.IsPlain b) (q : Ask) :
    (s.answer q).1 = (s.ledger.answer q).1 ∧ (s.answer q).2.ledger = (s.ledger.answer q).2 := by
  cases q with
  | call c =>
    obtain ⟨same, rows⟩ := h.kept.answer c
    rw [answer_call h.quiet]
    exact ⟨same, congrArg (Ledger.mk · s.now) rows⟩
  | clock => exact ⟨rfl, rfl⟩

theorem service_answer (h : s.IsPlain b) (q : Ask) : (s.answer q).2.service = s.service := by
  cases q with
  | call c => rw [answer_call h.quiet]
  | clock => rfl

/-- **A program runs in a plain session as it runs on the ledger**, and leaves a plain session of
the same service. -/
theorem run {α : Type} (h : s.IsPlain b) (p : Program Ask Ask.Answer α) :
    (p.run Session.answer s).1 = (p.run Ledger.answer s.ledger).1 ∧
      (p.run Session.answer s).2.ledger = (p.run Ledger.answer s.ledger).2 ∧
      (p.run Session.answer s).2.IsPlain b ∧
      (p.run Session.answer s).2.service = s.service := by
  -- what every question keeps: the session is plain, its service is that of `s`, its ledger is `l`
  have alike : ∀ q (t : Session) (l : Ledger),
      (t.IsPlain b ∧ t.service = s.service ∧ t.ledger = l) →
        (t.answer q).1 = (l.answer q).1 ∧
          ((t.answer q).2.IsPlain b ∧ (t.answer q).2.service = s.service ∧
            (t.answer q).2.ledger = (l.answer q).2) := by
    rintro q t l ⟨plain, service, rfl⟩
    obtain ⟨same, ledger⟩ := plain.answer q
    exact ⟨same, plain.after_answer q, (plain.service_answer q).trans service, ledger⟩
  obtain ⟨same, plain, service, ledger⟩ := Program.run_related alike p ⟨h, rfl, rfl⟩
  exact ⟨same, ledger, plain, service⟩

end IsPlain

/-- What a session answers to a command: the result of its operation, the calls that this made, and
what is stored under the key afterwards. -/
theorem perform_command (s : Session) (c : Command) {p : Operation Reply}
    (operation : s.service.perform c = p) :
    s.perform (.command c) =
      (.performed (Program.run answer p { s with calls := [] }).1
          (Program.run answer p { s with calls := [] }).2.calls
          ((Program.run answer p { s with calls := [] }).2.store.answer (.find c.key)).1,
        (Program.run answer p { s with calls := [] }).2) := by
  rw [← operation]
  rfl

end Session

end FeatureLock
