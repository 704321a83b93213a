/-!
# Programs that ask

An operation of the lock service is not one step: it asks its store, reads the
clock and asks again.  A `Program` is such an operation laid out in full.  It is
either done, or it asks one question and goes on with the answer, so the same
operation can be run alone, interrupted between two questions, or interleaved
with others.

## Main Definitions

- `Program`: a finished result, or a question and what comes after each answer
- `Program.bind`: one program after another
- `Program.run`: all questions answered by one state that changes from answer to
  answer
- `Program.expand`: every question replaced by a program of finer questions
-/

namespace FeatureLock

/-- A program over questions `Q`, where a question `q` is answered by an `A q`. -/
inductive Program (Q : Type) (A : Q → Type) (α : Type) where
  | done (result : α)
  | ask (question : Q) (next : A question → Program Q A α)

namespace Program

variable {Q Q' : Type} {A : Q → Type} {A' : Q' → Type} {α β σ : Type}

/-- One program, and then the program that its result selects. -/
def bind : Program Q A α → (α → Program Q A β) → Program Q A β
  | done a, f => f a
  | ask q next, f => ask q fun a => (next a).bind f

instance : Monad (Program Q A) where
  pure := done
  bind := bind

/-- The program of one question. -/
def asking (q : Q) : Program Q A (A q) :=
  ask q done

/-- **A run in which one state answers all questions**, one after the other. -/
def run (answer : (q : Q) → σ → A q × σ) : Program Q A α → σ → α × σ
  | done a, s => (a, s)
  | ask q next, s =>
    let (a, s) := answer q s
    (next a).run answer s

/-- **The same program over finer questions**: every question is replaced by a program that finds
its answer. -/
def expand (f : (q : Q) → Program Q' A' (A q)) : Program Q A α → Program Q' A' α
  | done a => done a
  | ask q next => (f q).bind fun a => (next a).expand f

/-! ### Runs -/

@[simp] theorem run_done (answer : (q : Q) → σ → A q × σ) (a : α) (s : σ) :
    (done a : Program Q A α).run answer s = (a, s) := rfl

@[simp] theorem run_ask (answer : (q : Q) → σ → A q × σ) (q : Q) (next : A q → Program Q A α)
    (s : σ) :
    (ask q next).run answer s = (next (answer q s).1).run answer (answer q s).2 := rfl

/-- Running one program after another is running them one after the other. -/
theorem run_bind (answer : (q : Q) → σ → A q × σ) (p : Program Q A α) (f : α → Program Q A β)
    (s : σ) :
    (p.bind f).run answer s = (f (p.run answer s).1).run answer (p.run answer s).2 := by
  induction p generalizing s with
  | done a => rfl
  | ask q next ih => simp only [bind, run_ask, ih]

/-- **Finer questions give the same run**, when every question is answered as the program that
replaces it answers it. -/
theorem run_expand (answer : (q : Q') → σ → A' q × σ) (f : (q : Q) → Program Q' A' (A q))
    (p : Program Q A α) (s : σ) :
    (p.expand f).run answer s = p.run (fun q s => (f q).run answer s) s := by
  induction p generalizing s with
  | done a => rfl
  | ask q next ih => simp only [expand, run_bind, ih, run_ask]

end Program

end FeatureLock
