import FeatureLock.Proofs.Lock.Stage

/-!
# Operations that run alone

An operation whose questions are all answered by one ledger makes its turns one
after the other.  Nobody changes the feature between a search and a release, so a
read releases an expired lock on the first attempt and never searches twice.

## Main Definitions

- `Contents.settle`: the map with the lock of one key taken off, if it is expired
- `Service.alone`: what the operation of a command does to the map when it runs
  alone
- `Session.Answer.result?`: the result that a session tells of

Main statements: `Service.run_perform`, which says so, and
`Session.IsPlain.perform_command`, the same for a command of a session.
-/

namespace FeatureLock

namespace Contents

/-- The map with the lock of a key taken off, if it is expired at an instant. -/
def settle (now : Instant) (k : Key) (m : Contents) : Contents :=
  Function.update m k (m.sweep now k)

@[simp] theorem settle_self (now : Instant) (k : Key) (m : Contents) :
    m.settle now k k = m.sweep now k :=
  Function.update_self _ _ _

theorem settle_of_not_expired {now : Instant} {k : Key} {m : Contents}
    (valid : ∀ f, m k = some f → f.isExpiredAt now = false) : m.settle now k = m := by
  have same : m.sweep now k = m k := by
    cases found : m k with
    | none => simp only [sweep, found, Option.map_none]
    | some f =>
      simp only [sweep, found, Option.map_some, valid f found, Bool.false_eq_true, if_false]
  rw [settle, same, Function.update_eq_self]

theorem settle_of_expired {now : Instant} {k : Key} {m : Contents} {f : Feature}
    (found : m k = some f) (expired : f.isExpiredAt now = true) :
    m.settle now k = Function.update m k (some (.fresh k)) := by
  simp only [settle, sweep, found, Option.map_some, expired, if_true]

/-- Report on the feature of a key once its lock is taken off, if it is expired at an instant. -/
def Step.lookSettled (now : Instant) (k : Key) (report : Feature → Reply) : Step := fun m =>
  Step.look k report (m.settle now k)

end Contents

/-- **What the operation of a command does to the map when it runs alone**: its step, and a read
takes off an expired lock before. -/
def Service.alone (s : Service) (now : Instant) (c : Command) : Contents.Step :=
  match c with
  | .read k => .checked k.validate fun _ => .lookSettled now k c.report
  | .isLocked k => .checked k.validate fun _ => .lookSettled now k c.report
  | .lockReasons k => .checked k.validate fun _ => .lookSettled now k c.report
  | c => s.effect now c

namespace Stage

/-- An operation that runs alone goes on after a turn. -/
theorem run_turn (c : Command) (st : Stage) (l : Ledger) :
    Program.run Ledger.answer (st.program c) l =
      Program.run Ledger.answer ((st.turn c l).1.program c) ⟨(st.turn c l).2, l.now⟩ := by
  cases left : st.program c with
  | done result =>
    obtain rfl := eq_finished_of_program left
    rw [← left]
    rfl
  | ask q next =>
    obtain ⟨continues, ledger⟩ := program_turn left l
    rw [Program.run_ask, continues, ledger]

/-- An operation that makes its step on the map in its next call. -/
theorem run_ending {c : Command} {st : Stage} {l : Ledger} {step : Contents.Step}
    (turn : st.turn c l = ending step l.rows) :
    Program.run Ledger.answer (st.program c) l = ((step l.rows).1, ⟨(step l.rows).2, l.now⟩) := by
  rw [run_turn, turn]
  rfl

/-- A write that runs alone makes the step that is left of it. -/
theorem run_of_opens {c : Command} {st : Stage} (opens : st.Opens c) (writes : st ≠ .searching)
    (m : Contents) (now : Instant) :
    Program.run Ledger.answer (st.program c) ⟨m, now⟩ =
      ((st.step c now m).1, ⟨(st.step c now m).2, now⟩) := by
  cases opens with
  | searching read => exact absurd rfl writes
  | timing d reasons =>
    rw [run_turn]
    simp only [turn, step]
    cases now.after? d with
    | some t => exact run_ending rfl
    | none => rfl
  | refused why => rfl
  | _ => exact run_ending rfl

/-- **A read that runs alone** reports the row after it took off an expired lock. -/
theorem run_searching (c : Command) {m : Contents} (keyed : ∀ k f, m k = some f → f.key = k)
    (now : Instant) :
    Program.run Ledger.answer (searching.program c) ⟨m, now⟩ =
      ((Contents.Step.lookSettled now c.key c.report m).1,
        ⟨(Contents.Step.lookSettled now c.key c.report m).2, now⟩) := by
  rw [run_turn, Contents.Step.lookSettled]
  simp only [turn]
  cases found : m c.key with
  | none =>
    have same : m.settle now c.key = m :=
      Contents.settle_of_not_expired fun f h => absurd (found.symm.trans h) (by simp)
    simp only [same, Contents.Step.look, found]
    rfl
  | some f =>
    simp only
    rw [run_turn]
    simp only [turn]
    cases expired : f.isExpiredAt now with
    | false =>
      have same : m.settle now c.key = m :=
        Contents.settle_of_not_expired fun g h => Option.some_inj.mp (found.symm.trans h) ▸ expired
      simp only [same, Contents.Step.look, found]
      rfl
    | true =>
      -- nobody was in between, so the row is the one that was found, and it is released
      simp only [if_true]
      rw [run_turn, Contents.settle_of_expired found expired]
      simp only [turn, found, expired, if_true, Contents.Step.look, Function.update_self,
        f.unlocked_eq_fresh, keyed c.key f found]
      rfl

end Stage

namespace Service

/-- **An operation that runs alone** does to the map what `alone` says, and does not move the
clock. -/
theorem run_perform (s : Service) (c : Command) {m : Contents}
    (keyed : ∀ k f, m k = some f → f.key = k) (now : Instant) :
    Program.run Ledger.answer (s.perform c) ⟨m, now⟩ =
      ((s.alone now c m).1, ⟨(s.alone now c m).2, now⟩) := by
  have reading : ∀ k, c.key = k →
      Program.run Ledger.answer
          ((Stage.checked k.validate fun _ => Stage.searching).program c) ⟨m, now⟩ =
        ((Contents.Step.checked k.validate (fun _ => .lookSettled now k c.report) m).1,
          ⟨(Contents.Step.checked k.validate (fun _ => .lookSettled now k c.report) m).2,
            now⟩) := by
    rintro k rfl
    cases c.key.validate with
    | error why => rfl
    | ok _ => exact Stage.run_searching c keyed now
  have writing : ¬ c.IsRead →
      Program.run Ledger.answer ((Stage.first s c).program c) ⟨m, now⟩ =
        ((s.effect now c m).1, ⟨(s.effect now c m).2, now⟩) := by
    intro write
    have opens := Stage.opens_first s c
    rw [← Stage.step_first]
    refine Stage.run_of_opens opens (fun searching => write ?_) m now
    rw [searching] at opens
    cases opens with
    | searching read => exact read
  rw [perform_eq_program]
  cases c with
  | read k => exact reading k rfl
  | isLocked k => exact reading k rfl
  | lockReasons k => exact reading k rfl
  | _ => exact writing id

end Service

/-! ### Commands of a session -/

namespace Session

/-- The result of an operation that an answer tells of. -/
def Answer.result? : Answer → Option (Except Failure Reply)
  | .performed result _ _ => some result
  | _ => none

/-- **A command of a plain session** answers and stores what its operation does alone. -/
theorem IsPlain.perform_command {b : Backend} {s : Session} (h : s.IsPlain b) (c : Command) :
    (s.perform (.command c)).1.result? = some (s.service.alone s.now c s.store.contents).1 ∧
      (s.perform (.command c)).2.ledger =
        ⟨(s.service.alone s.now c s.store.contents).2, s.now⟩ ∧
      (s.perform (.command c)).2.IsPlain b ∧ (s.perform (.command c)).2.service = s.service := by
  have plain : IsPlain b { s with calls := [] } := ⟨h.kept, h.quiet⟩
  obtain ⟨result, ledger, plain', service⟩ := plain.run (s.service.perform c)
  have alone := s.service.run_perform c (fun _ _ found => h.kept.key_of_contents found) s.now
  rw [Session.perform_command s c rfl]
  exact ⟨congrArg some (result.trans (congrArg Prod.fst alone)),
    ledger.trans (congrArg Prod.snd alone), plain', service⟩

/-- What is stored after a command of a plain session. -/
theorem IsPlain.contents_perform {b : Backend} {s : Session} (h : s.IsPlain b) (c : Command) :
    (s.perform (.command c)).2.store.contents =
      (s.service.alone s.now c s.store.contents).2 :=
  congrArg Ledger.rows (h.perform_command c).2.1

end Session

end FeatureLock
