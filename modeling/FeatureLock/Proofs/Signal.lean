import FeatureLock.Proofs.Contract

/-!
# Programs that end with the first failure or change

An answer can tell of a failure, or of a change of the state.  A program heeds both if
either of them is the last that it hears: then it ends in the failure, or it ends well.
What ends in a failure has therefore changed nothing.

## Main Definitions

- `Signals`: the failure and the change that an answer tells of
- `Program.Heeds`, `Program.StopsAt`: programs that end with the first of them

Main statements: `Program.Heeds.expand`, signals are heeded in finer questions;
`Run.done_of_failure`, a failure ends a program; and `Run.keeps_or_changed`, a program that
runs alone leaves the state as it is until it ends well.

## Design Notes

Which results tell of a failure or of a change is left open.  The programs that replace
questions end in answers, and these tell again of failures and changes.
-/

namespace FeatureLock

/-- **What answers tell of**: a failure, or a change of the state. -/
structure Signals (Q : Type) (A : Q → Type) (ε : Type) where
  failure : (q : Q) → A q → Option ε
  changes : (q : Q) → A q → Prop

variable {Q Q' : Type} {A : Q → Type} {A' : Q' → Type} {ε σ α β : Type}

namespace Program

/-- **A program heeds signals** when an answer that tells of a failure ends it in a result that
tells of the same failure, and one that tells of a change ends it in a result that tells of a
change. -/
def Heeds (S : Signals Q A ε) (failed : ε → α → Prop) (changed : α → Prop) : Program Q A α → Prop
  | done _ => True
  | ask q next => ∀ a,
    (∀ e, S.failure q a = some e → ∃ b, next a = done b ∧ failed e b) ∧
      (S.changes q a → ∃ b, next a = done b ∧ changed b) ∧ (next a).Heeds S failed changed

/-- **A program stops at the first signal**: it ends in the failure, or it ends well. -/
abbrev StopsAt (S : Signals Q A ε) (p : Program Q A (Except ε α)) : Prop :=
  p.Heeds S (fun e result => result = .error e) fun result => ∃ a, result = .ok a

namespace Heeds

variable {S : Signals Q A ε} {S' : Signals Q' A' ε} {failed : ε → α → Prop} {changed : α → Prop}

/-- A single question ends in its answer. -/
theorem asking (S : Signals Q A ε) (q : Q) :
    (Program.asking q).Heeds S (fun e a => S.failure q a = some e) (S.changes q) :=
  fun a => ⟨fun _ fails => ⟨a, rfl, fails⟩, fun changes => ⟨a, rfl, changes⟩, trivial⟩

/-- One program after another, which ends at once where the first one ended with a signal. -/
theorem bind {failed' : ε → β → Prop} {changed' : β → Prop} {p : Program Q A β}
    {f : β → Program Q A α} (h : p.Heeds S failed' changed')
    (rest : ∀ b, (f b).Heeds S failed changed)
    (fails : ∀ e b, failed' e b → ∃ a, f b = .done a ∧ failed e a)
    (changes : ∀ b, changed' b → ∃ a, f b = .done a ∧ changed a) :
    (p.bind f).Heeds S failed changed := by
  induction p with
  | done b => exact rest b
  | ask q next ih =>
    intro a
    obtain ⟨failure, change, later⟩ := h a
    refine ⟨fun e told => ?_, fun told => ?_, ih a later⟩
    · obtain ⟨b, ends, failed⟩ := failure e told
      simp only [ends, Program.bind]
      exact fails e b failed
    · obtain ⟨b, ends, changed⟩ := change told
      simp only [ends, Program.bind]
      exact changes b changed

/-- **Signals are heeded in finer questions**, when the programs that replace the questions heed
them and end in answers that tell of the same. -/
theorem expand {f : (q : Q) → Program Q' A' (A q)} {p : Program Q A α}
    (h : p.Heeds S failed changed)
    (finer : ∀ q, (f q).Heeds S' (fun e a => S.failure q a = some e) (S.changes q)) :
    (p.expand f).Heeds S' failed changed := by
  induction p with
  | done a => trivial
  | ask q next ih =>
    refine (finer q).bind (fun a => ih a (h a).2.2) (fun e a told => ?_) fun a told => ?_
    · obtain ⟨b, ends, failed⟩ := (h a).1 e told
      exact ⟨b, by rw [ends]; rfl, failed⟩
    · obtain ⟨b, ends, changed⟩ := (h a).2.1 told
      exact ⟨b, by rw [ends]; rfl, changed⟩

/-- **A program that runs alone on a state** ends in a result that tells of a change, or leaves the
state, when all answers do. -/
theorem run {answer : (q : Q) → σ → A q × σ} {p : Program Q A α} (h : p.Heeds S failed changed)
    {s : σ} (tells : ∀ q, S.changes q (answer q s).1 ∨ (answer q s).2 = s) :
    changed (p.run answer s).1 ∨ (p.run answer s).2 = s := by
  induction p with
  | done a => exact .inr rfl
  | ask q next ih =>
    obtain ⟨-, change, later⟩ := h (answer q s).1
    rw [run_ask]
    rcases tells q with told | same
    · obtain ⟨b, ends, changed⟩ := change told
      rw [ends]
      exact .inl changed
    · rw [same]
      exact ih _ later

end Heeds

end Program

/-! ### Runs -/

namespace Run

variable {ι φ : Type} [DecidableEq ι] {S : Signals Q A ε} {failed : ε → α → Prop}
  {changed : α → Prop}

/-- What is left of a program heeds the signals as well. -/
theorem heeds {r : Run ι Q A φ σ α} {i : ι} (h : (r.start.pending i).Heeds S failed changed)
    (n : Nat) : (r.pending i n).Heeds S failed changed := by
  induction n with
  | zero => exact h
  | succ n ih =>
    rcases r.pending_receives n i with same | ⟨q, next, a, left, -, goesOn⟩
    · rw [same]
      exact ih
    · rw [left] at ih
      rw [goesOn]
      exact (ih a).2.2

/-- **A failure ends a program**, for good and in a result that tells of it. -/
theorem done_of_failure {r : Run ι Q A φ σ α} {i : ι} {n : Nat} {q : Q} {a : A q} {e : ε}
    (h : (r.start.pending i).Heeds S failed changed) (received : r.Receives i n q a)
    (fails : S.failure q a = some e) :
    ∃ b, failed e b ∧ ∀ m, n < m → r.pending i m = .done b := by
  obtain ⟨next, left, goesOn⟩ := received.pending
  have heeds := heeds h n
  rw [left] at heeds
  obtain ⟨b, ends, failed⟩ := (heeds a).1 e fails
  exact ⟨b, failed, fun m later => pending_of_done (goesOn.trans ends) later⟩

/-- **A program that runs alone keeps a property of the state until it ends well**, when the answers
keep it that tell of no change. -/
theorem keeps_or_changed {r : Run Unit Q A φ σ α} (inv : σ → Prop)
    (h : (r.start.pending ()).Heeds S failed changed) (start : inv r.start.state)
    (answer : ∀ q s, inv s → S.changes q (r.world.answer q s).1 ∨ inv (r.world.answer q s).2)
    (clock : ∀ t s, inv s → inv (r.world.setClock t s)) (n : Nat) :
    inv (r.state n) ∨ ∃ b, r.pending () n = .done b ∧ changed b := by
  induction n with
  | zero => exact .inl start
  | succ n ih =>
    rcases ih with holds | ⟨b, done, changed⟩
    · rcases r.state_cases n with same | ⟨t, set⟩ | ⟨⟨⟩, q, asks, answered⟩
      · rw [same]
        exact .inl holds
      · rw [set]
        exact .inl (clock t _ holds)
      · rw [answered]
        rcases answer q _ holds with told | kept
        · obtain ⟨next, left, goesOn⟩ := Receives.pending (.inl ⟨asks, rfl⟩)
          have heeds := heeds h n
          rw [left] at heeds
          obtain ⟨b, ends, changed⟩ := (heeds _).2.1 told
          exact .inr ⟨b, goesOn.trans ends, changed⟩
        · exact .inl kept
    · exact .inr ⟨b, pending_of_done done (Nat.le_succ n), changed⟩

/-- A program that runs alone and comes to a result that tells of no change keeps a property of the
state at all moments. -/
theorem keeps_of_unchanged {r : Run Unit Q A φ σ α} (inv : σ → Prop)
    (h : (r.start.pending ()).Heeds S failed changed) (start : inv r.start.state)
    (answer : ∀ q s, inv s → S.changes q (r.world.answer q s).1 ∨ inv (r.world.answer q s).2)
    (clock : ∀ t s, inv s → inv (r.world.setClock t s)) {n : Nat} {b : α}
    (done : r.pending () n = .done b) (unchanged : ¬ changed b) (m : Nat) : inv (r.state m) := by
  rcases keeps_or_changed inv h start answer clock m with holds | ⟨b', done', changed⟩
  · exact holds
  · have both := (pending_of_done done (Nat.le_max_left n m)).symm.trans
      (pending_of_done done' (Nat.le_max_right n m))
    cases both
    exact absurd changed unchanged

end Run

end FeatureLock
