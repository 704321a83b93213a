import FeatureLock.Instant
import FeatureLock.Proofs.Program
import Mathlib.Logic.Function.Basic

/-!
# Programs that keep to a contract

A contract says what programs may ask of a state and which answers they may count
on.  Programs that keep to it can share a state: whatever one of them asks, the
others still get answers that they can count on.  So a property of the state is
shown one question at a time, and it then holds at every moment of every run, no
matter whose question is answered when, which questions fail and where the clock
stands.

## Main Definitions

- `Contract`, `Program.Fulfils`: what may be asked and counted on, and the programs
  that keep to it
- `World`: a state with a clock that answers questions, some of which may fail
- `Run`: programs side by side in a world, and what happens moment by moment
- `Run.state`, `Run.pending`, `Run.Asks`, `Run.Receives`: what a run has come to, and what
  a program asks and receives
- `World.Honours`: a property of the state that answers keep, under a contract
- `Run.Leads`: what the answers that a program is given in a run lead to

Main statements: `Program.Fulfils.expand`, a contract is kept in finer questions;
`Run.keeps`, a property that is honoured holds throughout a run; `Run.of_leads`, a
program comes to what it leads to; and the facts on one moment, `Run.state_cases` and
`Run.pending_cases`.

## Design Notes

A question that fails leaves the state as it is: whatever made it fail came first.
All programs are there from the start; one that begins later has its first turn
later.
-/

namespace FeatureLock

/-- What programs may ask, and the answers that they may count on. -/
structure Contract (Q : Type) (A : Q → Type) where
  asks : Q → Prop
  answers : (q : Q) → A q → Prop

namespace Program

variable {Q Q' : Type} {A : Q → Type} {A' : Q' → Type} {α β : Type}

/-- **A program fulfils a contract** when it asks what it may and ends in a result of a certain
kind, as long as the answers are those that it may count on. -/
def Fulfils (K : Contract Q A) (post : α → Prop) : Program Q A α → Prop
  | done a => post a
  | ask q next => K.asks q ∧ ∀ a, K.answers q a → (next a).Fulfils K post

namespace Fulfils

variable {K : Contract Q A} {K' : Contract Q' A'} {p : Program Q A α} {post : α → Prop}

theorem mono {post' : α → Prop} (h : p.Fulfils K post) (implies : ∀ a, post a → post' a) :
    p.Fulfils K post' := by
  induction p with
  | done a => exact implies a h
  | ask q next ih => exact ⟨h.1, fun a counted => ih a (h.2 a counted)⟩

/-- One program after another. -/
theorem bind {f : α → Program Q A β} {post' : β → Prop} (h : p.Fulfils K post)
    (rest : ∀ a, post a → (f a).Fulfils K post') : (p.bind f).Fulfils K post' := by
  induction p with
  | done a => exact rest a h
  | ask q next ih => exact ⟨h.1, fun a counted => ih a (h.2 a counted)⟩

/-- **A contract is kept in finer questions**, when the programs that replace the questions keep to
a contract of their own and find answers that can be counted on. -/
theorem expand {f : (q : Q) → Program Q' A' (A q)} (h : p.Fulfils K post)
    (finer : ∀ q, K.asks q → (f q).Fulfils K' (K.answers q)) : (p.expand f).Fulfils K' post := by
  induction p with
  | done a => exact h
  | ask q next ih => exact (finer q h.1).bind fun a counted => ih a (h.2 a counted)

/-! ### Alone -/

variable {σ τ : Type} {answer : (q : Q) → σ → A q × σ} {answer' : (q : Q) → τ → A q × τ}

/-- **A property that the answers keep**, as far as a contract allows the questions, holds at the
end of a run of a program that keeps to it. -/
theorem run_keeps {inv : σ → Prop} (h : p.Fulfils K post)
    (keeps : ∀ q s, K.asks q → inv s → K.answers q (answer q s).1 ∧ inv (answer q s).2) {s : σ}
    (holds : inv s) : post (p.run answer s).1 ∧ inv (p.run answer s).2 := by
  induction p generalizing s with
  | done a => exact ⟨h, holds⟩
  | ask q next ih =>
    obtain ⟨counted, after⟩ := keeps q s h.1 holds
    exact ih _ (h.2 _ counted) after

/-- **Two states that answer alike what a contract allows to ask** are alike to every program that
keeps to it. -/
theorem run_related {R : σ → τ → Prop} (h : p.Fulfils K post)
    (alike : ∀ q s t, K.asks q → R s t → (answer q s).1 = (answer' q t).1 ∧
      K.answers q (answer q s).1 ∧ R (answer q s).2 (answer' q t).2)
    {s : σ} {t : τ} (related : R s t) :
    (p.run answer s).1 = (p.run answer' t).1 ∧ R (p.run answer s).2 (p.run answer' t).2 := by
  induction p generalizing s t with
  | done a => exact ⟨rfl, related⟩
  | ask q next ih =>
    obtain ⟨same, counted, rest⟩ := alike q s t h.1 related
    rw [run_ask, run_ask, ← same]
    exact ih _ (h.2 _ counted) rest

end Fulfils

end Program

/-! ### Worlds and runs -/

/-- A state with a clock that answers questions. -/
structure World (Q : Type) (A : Q → Type) (φ σ : Type) where
  answer : (q : Q) → σ → A q × σ
  /-- what is answered to a question that fails, if it can fail so -/
  failing : φ → (q : Q) → Option (A q)
  setClock : Instant → σ → σ

/-- What happens at a moment: the question of a program is answered, or it fails, or the clock is
set. -/
inductive Happening (ι φ : Type) where
  | turn (i : ι)
  | failure (i : ι) (why : φ)
  | setClock (now : Instant)

/-- Programs side by side: the state that they share, and what is left of each. -/
structure Crowd (ι Q : Type) (A : Q → Type) (σ α : Type) where
  state : σ
  pending : ι → Program Q A α

/-- Programs side by side in a world, and what happens moment by moment. -/
structure Run (ι Q : Type) (A : Q → Type) (φ σ α : Type) where
  world : World Q A φ σ
  start : Crowd ι Q A σ α
  schedule : Nat → Happening ι φ

variable {ι Q : Type} [DecidableEq ι] {A : Q → Type} {φ σ α : Type}

/-- A program goes on with an answer, if there is one for its question; the state is then the one
that comes with the answer. -/
def Crowd.resume (x : Crowd ι Q A σ α) (i : ι) (answer : (q : Q) → Option (A q × σ)) :
    Crowd ι Q A σ α :=
  match x.pending i with
  | .done _ => x
  | .ask q next =>
    match answer q with
    | some (a, s) => ⟨s, Function.update x.pending i (next a)⟩
    | none => x

/-- **What one moment does.**  A finished program asks nothing, and a question that cannot fail goes
on waiting. -/
def World.step (w : World Q A φ σ) (x : Crowd ι Q A σ α) : Happening ι φ → Crowd ι Q A σ α
  | .turn i => x.resume i fun q => some (w.answer q x.state)
  | .failure i why => x.resume i fun q => (w.failing why q).map (·, x.state)
  | .setClock now => { x with state := w.setClock now x.state }

theorem Crowd.resume_cases (x : Crowd ι Q A σ α) (i : ι) (answer : (q : Q) → Option (A q × σ)) :
    x.resume i answer = x ∨
      ∃ q next a s, x.pending i = .ask q next ∧ answer q = some (a, s) ∧
        x.resume i answer = ⟨s, Function.update x.pending i (next a)⟩ := by
  cases left : x.pending i with
  | done result =>
    refine .inl ?_
    simp only [resume, left]
  | ask q next =>
    cases found : answer q with
    | none =>
      refine .inl ?_
      simp only [resume, left, found]
    | some given =>
      refine .inr ⟨q, next, given.1, given.2, rfl, found, ?_⟩
      simp only [resume, left, found]

namespace Run

/-- What a run has come to after some moments. -/
def after (r : Run ι Q A φ σ α) : Nat → Crowd ι Q A σ α
  | 0 => r.start
  | n + 1 => r.world.step (r.after n) (r.schedule n)

/-- The state after some moments. -/
def state (r : Run ι Q A φ σ α) (n : Nat) : σ :=
  (r.after n).state

/-- What is left of a program after some moments. -/
def pending (r : Run ι Q A φ σ α) (i : ι) (n : Nat) : Program Q A α :=
  (r.after n).pending i

/-- A program has a question answered at a moment. -/
def Asks (r : Run ι Q A φ σ α) (i : ι) (n : Nat) (q : Q) : Prop :=
  r.schedule n = .turn i ∧ ∃ next, r.pending i n = .ask q next

/-! ### One moment -/

variable (r : Run ι Q A φ σ α) (n : Nat)

/-- **What can happen at a moment**: nothing, the clock is set, a question is answered or a question
fails. -/
theorem after_cases :
    r.after (n + 1) = r.after n ∨
      (∃ t, r.after (n + 1) = ⟨r.world.setClock t (r.state n), (r.after n).pending⟩) ∨
      (∃ i q next, r.schedule n = .turn i ∧ r.pending i n = .ask q next ∧
        r.after (n + 1) = ⟨(r.world.answer q (r.state n)).2,
          Function.update (r.after n).pending i (next (r.world.answer q (r.state n)).1)⟩) ∨
      ∃ i q next why a, r.schedule n = .failure i why ∧ r.pending i n = .ask q next ∧
        r.world.failing why q = some a ∧
        r.after (n + 1) = ⟨r.state n, Function.update (r.after n).pending i (next a)⟩ := by
  rw [after]
  cases event : r.schedule n with
  | turn i =>
    rcases (r.after n).resume_cases i fun q => some (r.world.answer q (r.after n).state) with
      same | ⟨q, next, a, s, asks, answered, moved⟩
    · exact .inl same
    · rw [Option.some_inj] at answered
      refine .inr (.inr (.inl ⟨i, q, next, rfl, asks, moved.trans ?_⟩))
      rw [state, answered]
  | failure i why =>
    rcases (r.after n).resume_cases i fun q => (r.world.failing why q).map (·, (r.after n).state)
      with same | ⟨q, next, a, s, asks, answered, moved⟩
    · exact .inl same
    · obtain ⟨a', fails, found⟩ := Option.map_eq_some_iff.mp answered
      cases found
      exact .inr (.inr (.inr ⟨i, q, next, why, a, rfl, asks, fails, moved⟩))
  | setClock t => exact .inr (.inl ⟨t, rfl⟩)

/-- **How the state comes through a moment**: it stays, its clock is set, or a program has a
question answered. -/
theorem state_cases :
    r.state (n + 1) = r.state n ∨ (∃ t, r.state (n + 1) = r.world.setClock t (r.state n)) ∨
      ∃ i q, r.Asks i n q ∧ r.state (n + 1) = (r.world.answer q (r.state n)).2 := by
  rcases r.after_cases n with
    same | ⟨t, set⟩ | ⟨i, q, next, turn, asks, moved⟩ | ⟨i, q, next, why, a, -, -, -, moved⟩
  · exact .inl (congrArg Crowd.state same)
  · exact .inr (.inl ⟨t, congrArg Crowd.state set⟩)
  · exact .inr (.inr ⟨i, q, ⟨turn, next, asks⟩, congrArg Crowd.state moved⟩)
  · exact .inl (congrArg Crowd.state moved :)

/-- **How a program comes through a moment**: it waits, its question is answered, or its question
fails. -/
theorem pending_cases (i : ι) :
    r.pending i (n + 1) = r.pending i n ∨
      (∃ q next, r.pending i n = .ask q next ∧ r.Asks i n q ∧
        r.pending i (n + 1) = next (r.world.answer q (r.state n)).1 ∧
        r.state (n + 1) = (r.world.answer q (r.state n)).2) ∨
      ∃ q next why a, r.schedule n = .failure i why ∧ r.pending i n = .ask q next ∧
        r.world.failing why q = some a ∧ r.pending i (n + 1) = next a := by
  rcases r.after_cases n with
    same | ⟨t, set⟩ | ⟨j, q, next, turn, asks, moved⟩ |
      ⟨j, q, next, why, a, event, asks, fails, moved⟩
  · exact .inl (by rw [pending, same, pending])
  · exact .inl (by rw [pending, set, pending])
  · have left := congrFun (congrArg Crowd.pending moved) i
    by_cases own : i = j
    · subst own
      refine .inr (.inl ⟨q, next, asks, ⟨turn, next, asks⟩, ?_, congrArg Crowd.state moved⟩)
      exact left.trans (Function.update_self _ _ _)
    · exact .inl (left.trans (Function.update_of_ne own _ _))
  · have left := congrFun (congrArg Crowd.pending moved) i
    by_cases own : i = j
    · subst own
      exact .inr (.inr
        ⟨q, next, why, a, event, asks, fails, left.trans (Function.update_self _ _ _)⟩)
    · exact .inl (left.trans (Function.update_of_ne own _ _))

/-- **A program goes on with an answer at a moment**: that of the world, or that of a failure. -/
def Receives (r : Run ι Q A φ σ α) (i : ι) (n : Nat) (q : Q) (a : A q) : Prop :=
  (r.Asks i n q ∧ (r.world.answer q (r.state n)).1 = a) ∨
    ∃ why next, r.schedule n = .failure i why ∧ r.pending i n = .ask q next ∧
      r.world.failing why q = some a

/-- **A program waits through a moment**, or goes on with the answer that it receives. -/
theorem pending_receives (i : ι) :
    r.pending i (n + 1) = r.pending i n ∨
      ∃ q next a, r.pending i n = .ask q next ∧ r.Receives i n q a ∧
        r.pending i (n + 1) = next a := by
  rcases r.pending_cases n i with
    same | ⟨q, next, left, asks, answered, -⟩ | ⟨q, next, why, a, event, left, fails, answered⟩
  · exact .inl same
  · exact .inr ⟨q, next, _, left, .inl ⟨asks, rfl⟩, answered⟩
  · exact .inr ⟨q, next, a, left, .inr ⟨why, next, event, left, fails⟩, answered⟩

variable {r n} in
/-- What a program receives is what it goes on with. -/
theorem Receives.pending {i : ι} {q : Q} {a : A q} (received : r.Receives i n q a) :
    ∃ next, r.pending i n = .ask q next ∧ r.pending i (n + 1) = next a := by
  rcases received with ⟨⟨turn, next, left⟩, rfl⟩ | ⟨why, next, event, left, fails⟩
  · refine ⟨next, left, ?_⟩
    rw [Run.pending] at left
    simp only [Run.pending, state, after, turn, World.step, Crowd.resume, left,
      Function.update_self]
  · refine ⟨next, left, ?_⟩
    rw [Run.pending] at left
    simp only [Run.pending, after, event, World.step, Crowd.resume, left, fails, Option.map_some,
      Function.update_self]

variable {r n} in
/-- A question that is answered leaves the state that comes with the answer. -/
theorem Asks.state_eq {i : ι} {q : Q} (asks : r.Asks i n q) :
    r.state (n + 1) = (r.world.answer q (r.state n)).2 := by
  obtain ⟨turn, next, left⟩ := asks
  rw [pending] at left
  simp only [state, after, turn, World.step, Crowd.resume, left]

end Run

/-! ### Properties that hold throughout -/

/-- **A world honours a contract with a property of its state**: where the property holds, questions
that may be asked are answered as programs may count on, and the property holds again. -/
structure World.Honours (w : World Q A φ σ) (K : Contract Q A) (inv : σ → Prop) : Prop where
  answer : ∀ q s, K.asks q → inv s → K.answers q (w.answer q s).1 ∧ inv (w.answer q s).2
  failing : ∀ why q a, w.failing why q = some a → K.answers q a
  setClock : ∀ t s, inv s → inv (w.setClock t s)

namespace Run

variable {r : Run ι Q A φ σ α} {K : Contract Q A} {inv : σ → Prop} {post : ι → α → Prop}

/-- A property that no answer takes away holds throughout a run, whatever the programs ask. -/
theorem state_keeps (inv : σ → Prop) (start : inv r.start.state)
    (answer : ∀ q s, inv s → inv (r.world.answer q s).2)
    (clock : ∀ t s, inv s → inv (r.world.setClock t s)) (n : Nat) : inv (r.state n) := by
  induction n with
  | zero => exact start
  | succ n ih =>
    rcases r.state_cases n with same | ⟨t, set⟩ | ⟨i, q, -, answered⟩
    · rw [same]
      exact ih
    · rw [set]
      exact clock t _ ih
    · rw [answered]
      exact answer q _ ih

/-- **A property that is honoured holds throughout a run** of programs that fulfil the contract, and
what is left of them fulfils it. -/
theorem keeps (honours : r.world.Honours K inv) (start : inv r.start.state)
    (fulfil : ∀ i, (r.start.pending i).Fulfils K (post i)) (n : Nat) :
    inv (r.state n) ∧ ∀ i, (r.pending i n).Fulfils K (post i) := by
  induction n with
  | zero => exact ⟨start, fulfil⟩
  | succ n ih =>
    obtain ⟨holds, left⟩ := ih
    constructor
    · rcases r.state_cases n with same | ⟨t, set⟩ | ⟨i, q, ⟨-, next, asks⟩, answered⟩
      · rw [same]
        exact holds
      · rw [set]
        exact honours.setClock t _ holds
      · have allowed := left i
        rw [asks] at allowed
        rw [answered]
        exact (honours.answer q _ allowed.1 holds).2
    · intro i
      rcases r.pending_cases n i with
        same | ⟨q, next, asks, -, answered, -⟩ | ⟨q, next, why, a, -, asks, fails, answered⟩
      · rw [same]
        exact left i
      · have allowed := left i
        rw [asks] at allowed
        rw [answered]
        exact allowed.2 _ (honours.answer q _ allowed.1 holds).1
      · have allowed := left i
        rw [asks] at allowed
        rw [answered]
        exact allowed.2 a (honours.failing why q a fails)

/-- **A program fulfils its contract throughout a run** in which it receives only answers that it
may count on. -/
theorem fulfils_of_receives {i : ι} {post : α → Prop}
    (counted : ∀ n q a, r.Receives i n q a → K.asks q → K.answers q a)
    (fulfil : (r.start.pending i).Fulfils K post) (n : Nat) : (r.pending i n).Fulfils K post := by
  induction n with
  | zero => exact fulfil
  | succ n ih =>
    rcases r.pending_receives n i with same | ⟨q, next, a, asks, received, goesOn⟩
    · rw [same]
      exact ih
    · rw [asks] at ih
      rw [goesOn]
      exact ih.2 a (counted n q a received ih.1)

/-- A program that counts on nothing fulfils its contract throughout any run. -/
theorem fulfils {i : ι} {post : α → Prop} (any : ∀ q a, K.answers q a)
    (fulfil : (r.start.pending i).Fulfils K post) (n : Nat) : (r.pending i n).Fulfils K post :=
  fulfils_of_receives (fun _ q a _ _ => any q a) fulfil n

/-! ### What a result rests on -/

/-- **What a program leads to in a run**, from a moment on: whenever its questions are answered as
those of the program `i`, it ends in a result with a property. -/
def Leads (r : Run ι Q A φ σ α) (i : ι) {β : Type} (post : β → Prop) :
    Program Q A β → Nat → Prop
  | .done b, _ => post b
  | .ask q next, n =>
    ∀ m, n ≤ m →
      (r.Asks i m q → r.Leads i post (next (r.world.answer q (r.state m)).1) (m + 1)) ∧
        ∀ why a, r.world.failing why q = some a → r.Leads i post (next a) (m + 1)

variable {i : ι} {β γ : Type}

theorem leads_of_forall {post : β → Prop} (always : ∀ b, post b) (p : Program Q A β) (n : Nat) :
    r.Leads i post p n := by
  induction p generalizing n with
  | done b => exact always b
  | ask q next ih => exact fun m _ => ⟨fun _ => ih _ (m + 1), fun _ a _ => ih a (m + 1)⟩

theorem Leads.bind {p : Program Q A β} {f : β → Program Q A γ} {post : β → Prop} {post' : γ → Prop}
    {n : Nat} (h : r.Leads i post p n) (rest : ∀ b, post b → ∀ m, r.Leads i post' (f b) m) :
    r.Leads i post' (p.bind f) n := by
  induction p generalizing n with
  | done b => exact rest b h n
  | ask q next ih =>
    intro m later
    obtain ⟨answered, failed⟩ := h m later
    exact ⟨fun asks => ih _ (answered asks), fun why a fails => ih a (failed why a fails)⟩

/-- **A program that fulfils a contract leads to its result**, if the finer programs that replace
its questions lead to answers that it may count on. -/
theorem leads_expand {Q' : Type} {A' : Q' → Type} {K : Contract Q' A'} {post : β → Prop}
    {f : (q : Q') → Program Q A (A' q)} {p : Program Q' A' β} (fulfils : p.Fulfils K post)
    (finer : ∀ q n, r.Leads i (K.answers q) (f q) n) (n : Nat) : r.Leads i post (p.expand f) n := by
  induction p generalizing n with
  | done b => exact fulfils
  | ask q next ih => exact (finer q n).bind fun a counted => ih a (fulfils.2 a counted)

/-- **A program comes to what it leads to.** -/
theorem of_leads {post : α → Prop} (leads : r.Leads i post (r.start.pending i) 0) {n : Nat}
    {result : α} (done : r.pending i n = .done result) : post result := by
  have left : ∀ n, ∃ m ≤ n, r.Leads i post (r.pending i n) m := by
    intro n
    induction n with
    | zero => exact ⟨0, Nat.le_refl 0, leads⟩
    | succ n ih =>
      obtain ⟨m, le, leads⟩ := ih
      rcases r.pending_cases n i with
        same | ⟨q, next, left, asks, answered, -⟩ | ⟨q, next, why, a, -, left, fails, answered⟩
      · rw [same]
        exact ⟨m, Nat.le_succ_of_le le, leads⟩
      · rw [left] at leads
        rw [answered]
        exact ⟨n + 1, Nat.le_refl _, (leads n le).1 asks⟩
      · rw [left] at leads
        rw [answered]
        exact ⟨n + 1, Nat.le_refl _, (leads n le).2 why a fails⟩
  obtain ⟨m, -, leads⟩ := left n
  rw [done] at leads
  exact leads

/-- A program that is done stays so. -/
theorem pending_of_done {n m : Nat} {result : α} (done : r.pending i n = .done result)
    (le : n ≤ m) : r.pending i m = .done result := by
  induction le with
  | refl => exact done
  | @step m _ ih =>
    rcases r.pending_cases m i with same | ⟨q, next, left, -⟩ | ⟨q, next, why, a, -, left, -⟩
    · exact same.trans ih
    · rw [ih] at left
      cases left
    · rw [ih] at left
      cases left

/-- A program that is done asks nothing any more. -/
theorem Asks.lt_of_done {n m : Nat} {q : Q} {result : α} (asks : r.Asks i n q)
    (done : r.pending i m = .done result) : n < m := by
  refine Nat.lt_of_not_le fun le => ?_
  obtain ⟨-, next, left⟩ := asks
  rw [pending_of_done done le] at left
  cases left

end Run

end FeatureLock
