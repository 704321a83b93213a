import FeatureLock.Proofs.Session.Ledger

/-!
# The two kinds of store are interchangeable

Two sessions that differ only in where a memory is laid out go through the same
answers, step by step, and stay so.  Hence nobody who uses a store through its
calls, or through the service, can tell in which of the two places its features
are kept.

## Main Definitions

- `Session.Step.IsRegular`: the steps that both kinds of store have: operations,
  clock moves and direct calls
- `Session.Twins`: two sessions over one memory, laid out in two places

Main statement: `memory_and_database_interchangeable`.
-/

namespace FeatureLock

namespace Session

/-- An operation, a move of the clock or a direct call.  Left out are interferences, and changes by
hand that only one kind of store knows. -/
def Step.IsRegular : Step → Prop
  | .command _ => True
  | .setClock _ => True
  | .advance _ => True
  | .defaultDuration => True
  | .hook _ _ => False
  | .store (.call _) => True
  | .store _ => False

/-- Two sessions that differ only in the place in which one memory is laid out. -/
def Twins (b b' : Backend) (s t : Session) : Prop :=
  s.hooks = [] ∧ ∃ m : Memory, m.Distinct ∧ s.store = b.lay m ∧ t = { s with store := b'.lay m }

namespace Twins

variable {b b' : Backend} {s t : Session}

/-- A direct call is answered alike by the stores of twins. -/
theorem store_answer (h : Twins b b' s t) (c : Call) :
    (s.store.answer c).1 = (t.store.answer c).1 ∧
      Twins b b' { s with store := (s.store.answer c).2 }
        { t with store := (t.store.answer c).2 } := by
  obtain ⟨quiet, m, distinct, store, rfl⟩ := h
  rw [store]
  simp only [b.answer_lay distinct, b'.answer_lay distinct, true_and]
  exact ⟨quiet, _, distinct.answer c, rfl, rfl⟩

theorem set_calls (h : Twins b b' s t) (calls : List CallKind) :
    Twins b b' { s with calls := calls } { t with calls := calls } := by
  obtain ⟨quiet, m, distinct, store, rfl⟩ := h
  exact ⟨quiet, m, distinct, store, rfl⟩

theorem set_now (h : Twins b b' s t) (now : Instant) :
    Twins b b' { s with now := now } { t with now := now } := by
  obtain ⟨quiet, m, distinct, store, rfl⟩ := h
  exact ⟨quiet, m, distinct, store, rfl⟩

theorem quiet_right (h : Twins b b' s t) : t.hooks = [] := by
  obtain ⟨quiet, _, _, _, rfl⟩ := h
  exact quiet

theorem same_rest (h : Twins b b' s t) :
    t.service = s.service ∧ t.now = s.now ∧ t.calls = s.calls := by
  obtain ⟨_, _, _, _, rfl⟩ := h
  exact ⟨rfl, rfl, rfl⟩

/-- **A question is answered alike by twins.** -/
theorem answer (h : Twins b b' s t) (q : Ask) :
    (s.answer q).1 = (t.answer q).1 ∧ Twins b b' (s.answer q).2 (t.answer q).2 := by
  obtain ⟨_, now, calls⟩ := h.same_rest
  cases q with
  | call c =>
    obtain ⟨same, twins⟩ := h.store_answer c
    rw [answer_call h.1, answer_call h.quiet_right, calls]
    exact ⟨same, twins.set_calls (s.calls ++ [c.kind])⟩
  | clock => exact ⟨now.symm, h⟩

/-- An operation runs alike in twins. -/
theorem run {α : Type} (h : Twins b b' s t) (p : Program Ask Ask.Answer α) :
    (p.run Session.answer s).1 = (p.run Session.answer t).1 ∧
      Twins b b' (p.run Session.answer s).2 (p.run Session.answer t).2 := by
  have alike : ∀ q (s t : Session), Twins b b' s t →
      (s.answer q).1 = (t.answer q).1 ∧ Twins b b' (s.answer q).2 (t.answer q).2 :=
    fun q _ _ twins => twins.answer q
  exact Program.run_related alike p h

/-- **A regular step is answered alike by twins**, which then are twins again. -/
theorem perform (h : Twins b b' s t) {step : Step} (regular : step.IsRegular) :
    (s.perform step).1 = (t.perform step).1 ∧
      Twins b b' (s.perform step).2 (t.perform step).2 := by
  obtain ⟨service, now, _⟩ := h.same_rest
  -- only operations and direct calls come to the stores
  cases step with
  | command c =>
    obtain ⟨result, twins⟩ := (h.set_calls []).run (s.service.perform c)
    obtain ⟨_, _, noted⟩ := twins.same_rest
    obtain ⟨stored, _⟩ := twins.store_answer (.find c.key)
    rw [perform_command s c rfl, perform_command t c (congrArg (·.perform c) service), result,
      stored, noted]
    exact ⟨rfl, twins⟩
  | setClock now => exact ⟨rfl, h.set_now now⟩
  | advance d =>
    simp only [Session.perform, now, true_and]
    exact h.set_now (s.now.advance d)
  | defaultDuration =>
    simp only [Session.perform, service, true_and]
    exact h
  | hook kind hook => exact regular.elim
  | store step =>
    cases step with
    | call c =>
      obtain ⟨same, twins⟩ := h.store_answer c
      simp only [Session.perform, Store.perform, same, true_and]
      exact twins
    | _ => exact regular.elim

theorem play (h : Twins b b' s t) {steps : List Step} (regular : ∀ step ∈ steps, step.IsRegular) :
    s.play steps = t.play steps := by
  induction steps generalizing s t with
  | nil => rfl
  | cons step steps ih =>
    obtain ⟨same, twins⟩ := h.perform (regular step List.mem_cons_self)
    have rest := ih twins fun later mem => regular later (List.mem_cons_of_mem step mem)
    simp only [Session.play, same, rest]

end Twins

theorem twins_start (b b' : Backend) (service : Service) (now : Instant) :
    Twins b b' (start service b.empty now) (start service b'.empty now) := by
  refine ⟨rfl, .empty, Memory.distinct_empty, b.empty_eq_lay, ?_⟩
  rw [b'.empty_eq_lay]
  rfl

end Session

/-- The answers to a list of calls do not tell where the features are kept. -/
theorem Store.answers_lay (b b' : Backend) (cs : List Call) {m : Memory} (distinct : m.Distinct) :
    ((b.lay m).answers cs).1 = ((b'.lay m).answers cs).1 ∧
      ∃ m' : Memory, m'.Distinct ∧ (b.lay m).after cs = b.lay m' ∧
        (b'.lay m).after cs = b'.lay m' := by
  induction cs generalizing m with
  | nil => exact ⟨rfl, m, distinct, rfl, rfl⟩
  | cons c cs ih =>
    obtain ⟨same, m', distinct', left, right⟩ := ih (distinct.answer c)
    simp only [Store.after] at left right ⊢
    simp only [Store.answers_cons, b.answer_lay distinct, b'.answer_lay distinct]
    exact ⟨congrArg (List.cons _) same, m', distinct', left, right⟩

/-- **Features in memory and features in a table cannot be told apart.**  Two stores that begin
empty give the same answer to each of the same calls, and afterwards a search under any key finds
the same on both; and every sequential run of operations, clock moves and direct calls is answered
alike. -/
theorem memory_and_database_interchangeable (counting : Counting) :
    (∀ cs : List Call,
      (Backend.memory.empty.answers cs).1 = ((Backend.database counting).empty.answers cs).1 ∧
        ∀ k, ((Backend.memory.empty.after cs).answer (.find k)).1 =
          (((Backend.database counting).empty.after cs).answer (.find k)).1) ∧
      ∀ (service : Service) (now : Instant) (steps : List Session.Step),
        (∀ step ∈ steps, step.IsRegular) →
          (Session.start service Backend.memory.empty now).play steps =
            (Session.start service (Backend.database counting).empty now).play steps := by
  constructor
  · intro cs
    rw [Backend.empty_eq_lay, Backend.empty_eq_lay]
    obtain ⟨same, m, distinct, left, right⟩ :=
      Store.answers_lay .memory (.database counting) cs Memory.distinct_empty
    refine ⟨same, fun k => ?_⟩
    rw [left, right, Backend.answer_lay _ distinct, Backend.answer_lay _ distinct]
  · intro service now steps regular
    exact (Session.twins_start .memory (.database counting) service now).play regular

/-- A reason with a line break and a character without an image, stored and reported by both. -/
theorem odd_reason_kept_by_both :
    (∀ step ∈ ([.store (.call (.insert ⟨⟨-1, "a", "b"⟩, true, -5, ["\n"], ["\x00", ""]⟩)),
        .command (.lockReasons ⟨-1, "a", "b"⟩)] : List Session.Step), step.IsRegular) ∧
      (Session.start ⟨.empty, standardDuration⟩ Backend.memory.empty 0).play
          [.store (.call (.insert ⟨⟨-1, "a", "b"⟩, true, -5, ["\n"], ["\x00", ""]⟩)),
            .command (.lockReasons ⟨-1, "a", "b"⟩)] =
        (Session.start ⟨.empty, standardDuration⟩ (Backend.database .matched).empty 0).play
          [.store (.call (.insert ⟨⟨-1, "a", "b"⟩, true, -5, ["\n"], ["\x00", ""]⟩)),
            .command (.lockReasons ⟨-1, "a", "b"⟩)] := by
  have regular : ∀ step ∈
      ([.store (.call (.insert ⟨⟨-1, "a", "b"⟩, true, -5, ["\n"], ["\x00", ""]⟩)),
        .command (.lockReasons ⟨-1, "a", "b"⟩)] : List Session.Step), step.IsRegular := by
    intro step mem
    rcases List.mem_pair.mp mem with rfl | rfl <;> trivial
  exact ⟨regular, (memory_and_database_interchangeable .matched).2 _ 0 _ regular⟩

end FeatureLock
