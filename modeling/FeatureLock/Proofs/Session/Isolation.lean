import FeatureLock.Proofs.Lock.Calls
import FeatureLock.Proofs.Lock.EagerSweep
import FeatureLock.Proofs.Session.Interchange
import FeatureLock.Proofs.Store.Restriction

/-!
# Keys do not interfere

Whoever works with one key cannot tell what is done under other keys.  A run of a
session in which all operations on other keys are left out gives the same answers
under the key and holds the same feature under it, at every point.

## Main Definitions

- `Session.Step.concerns`, `Session.answersAt`: the steps that concern a key, and what a
  run answers to them
- `Session.SameAt`: two sessions that look alike under one key

Main statements: `Session.SameAt.perform` and `Session.SameAt.perform_other`, one step of
two sessions and of one; and `keys_do_not_interfere`, a run.

## Design Notes

Keys are equal when all three of their parts are, character by character: a tenant, a
capital letter, a blank at the end or a text on the wrong side of the border between
subject and feature type makes another key.  A database compares texts in the same way,
as one does whose collation neither folds letters nor pads with blanks.
-/

namespace FeatureLock

namespace Session

/-- Whether a step concerns a key.  Operations and direct calls do under their own key, and all
other steps under every key. -/
def Step.concerns (k : Key) : Step → Bool
  | .command c => c.key = k
  | .store (.call c) => c.key = k
  | _ => true

/-- What a run answers to the steps that concern a key. -/
def answersAt (s : Session) (k : Key) (steps : List Step) : List Answer :=
  ((steps.zip (s.play steps)).filter fun p => p.1.concerns k).map Prod.snd

theorem answersAt_cons_of_pos {k : Key} {step : Step} (concerns : step.concerns k = true)
    (s : Session) (steps : List Step) :
    s.answersAt k (step :: steps) =
      (s.perform step).1 :: (s.perform step).2.answersAt k steps := by
  simp only [answersAt, play, List.zip_cons_cons, List.filter_cons, concerns, if_true,
    List.map_cons]

theorem answersAt_cons_of_neg {k : Key} {step : Step} (concerns : step.concerns k = false)
    (s : Session) (steps : List Step) :
    s.answersAt k (step :: steps) = (s.perform step).2.answersAt k steps := by
  simp only [answersAt, play, List.zip_cons_cons, List.filter_cons, concerns, Bool.false_eq_true,
    if_false]

/-- Two sessions that look alike under one key: no hook waits in either, and they have the same
service, the same time and the same under that key. -/
structure SameAt (k : Key) (s t : Session) : Prop where
  only : s.store.only k = t.store.only k
  now : s.now = t.now
  service : s.service = t.service
  quiet : s.hooks = []
  quiet' : t.hooks = []

namespace SameAt

variable {k : Key} {s t : Session}

theorem start (k : Key) (service : Service) (store : Store) (now : Instant) :
    SameAt k (.start service store now) (.start service store now) :=
  ⟨rfl, rfl, rfl, rfl, rfl⟩

/-! ### Questions -/

/-- **A question under the key** is answered alike. -/
theorem answer (h : SameAt k s t) (noted : s.calls = t.calls) {q : Ask}
    (asks : (Ask.under k).asks q) :
    (s.answer q).1 = (t.answer q).1 ∧ SameAt k (s.answer q).2 (t.answer q).2 ∧
      (s.answer q).2.calls = (t.answer q).2.calls := by
  cases q with
  | call c =>
    obtain ⟨same, only⟩ := Store.answer_of_only_eq (c := c) asks h.only
    rw [answer_call h.quiet, answer_call h.quiet', noted]
    exact ⟨same, ⟨only, h.now, h.service, h.quiet, h.quiet'⟩, rfl⟩
  | clock => exact ⟨h.now, h, noted⟩

/-- **A question under another key** leaves a session that looks the same. -/
theorem answer_other (h : SameAt k s t) {k' : Key} (other : k ≠ k') {q : Ask}
    (asks : (Ask.under k').asks q) : SameAt k (s.answer q).2 t := by
  cases q with
  | call c =>
    have key : c.key = k' := asks
    have only := Store.only_answer_of_ne c s.store fun own => other (own.trans key)
    rw [answer_call h.quiet]
    exact ⟨only.trans h.only, h.now, h.service, h.quiet, h.quiet'⟩
  | clock => exact h

/-! ### Steps -/

/-- **An operation on the key** gives the same answer, with the same calls and the same feature
stored. -/
theorem perform_command (h : SameAt k s t) {c : Command} (key : c.key = k) :
    (s.perform (.command c)).1 = (t.perform (.command c)).1 ∧
      SameAt k (s.perform (.command c)).2 (t.perform (.command c)).2 := by
  subst key
  have alike : ∀ (q : Ask) (x y : Session), (Ask.under c.key).asks q →
      (SameAt c.key x y ∧ x.calls = y.calls) →
        (x.answer q).1 = (y.answer q).1 ∧ True ∧
          (SameAt c.key (x.answer q).2 (y.answer q).2 ∧
            (x.answer q).2.calls = (y.answer q).2.calls) := by
    rintro q x y asks ⟨same, noted⟩
    obtain ⟨answer, rest, noted⟩ := same.answer noted asks
    exact ⟨answer, trivial, rest, noted⟩
  have begins : SameAt c.key { s with calls := [] } { t with calls := [] } :=
    ⟨h.only, h.now, h.service, h.quiet, h.quiet'⟩
  obtain ⟨result, rest, noted⟩ := (s.service.perform_under c).run_related alike ⟨begins, rfl⟩
  have stored := (Store.answer_of_only_eq (c := .find c.key) rfl rest.only).1
  have performs := congrArg (·.perform c) h.service.symm
  rw [Session.perform_command s c rfl, Session.perform_command t c performs, result, noted, stored]
  exact ⟨rfl, rest⟩

/-- An operation on another key leaves a session that looks the same. -/
theorem perform_command_other (h : SameAt k s t) {c : Command} (other : k ≠ c.key) :
    SameAt k (s.perform (.command c)).2 t := by
  have keeps : ∀ (q : Ask) (x : Session), (Ask.under c.key).asks q → SameAt k x t →
      True ∧ SameAt k (x.answer q).2 t :=
    fun q x asks same => ⟨trivial, same.answer_other other asks⟩
  have begins : SameAt k { s with calls := [] } t := ⟨h.only, h.now, h.service, h.quiet, h.quiet'⟩
  rw [Session.perform_command s c rfl]
  exact ((s.service.perform_under c).run_keeps keeps begins).2

/-- **A step that concerns the key** is answered alike by both sessions. -/
theorem perform (h : SameAt k s t) {step : Step} (regular : step.IsRegular)
    (concerns : step.concerns k = true) :
    (s.perform step).1 = (t.perform step).1 ∧ SameAt k (s.perform step).2 (t.perform step).2 := by
  cases step with
  | command c => exact h.perform_command (of_decide_eq_true concerns)
  | setClock now => exact ⟨rfl, h.only, rfl, h.service, h.quiet, h.quiet'⟩
  | advance d =>
    simp only [Session.perform, h.now, true_and]
    exact ⟨h.only, rfl, h.service, h.quiet, h.quiet'⟩
  | defaultDuration =>
    simp only [Session.perform, h.service, true_and]
    exact h
  | hook kind hook => exact regular.elim
  | store step =>
    cases step with
    | call c =>
      obtain ⟨same, only⟩ := Store.answer_of_only_eq (c := c) (of_decide_eq_true concerns) h.only
      simp only [Session.perform, Store.perform, same, true_and]
      exact ⟨only, h.now, h.service, h.quiet, h.quiet'⟩
    | _ => exact regular.elim

/-- **A step that does not concern the key** leaves a session that looks the same. -/
theorem perform_other (h : SameAt k s t) {step : Step} (concerns : step.concerns k = false) :
    SameAt k (s.perform step).2 t := by
  cases step with
  | command c => exact h.perform_command_other fun own => of_decide_eq_false concerns own.symm
  | store step =>
    cases step with
    | call c =>
      have only := Store.only_answer_of_ne c s.store fun own => of_decide_eq_false concerns own.symm
      exact ⟨only.trans h.only, h.now, h.service, h.quiet, h.quiet'⟩
    | _ => cases concerns
  | _ => cases concerns

/-- **A run, and the same run without the steps that do not concern the key**: the answers to the
others are the same, and so is how it ends. -/
theorem run (h : SameAt k s t) {steps : List Step} (regular : ∀ step ∈ steps, step.IsRegular) :
    s.answersAt k steps = t.play (steps.filter (Step.concerns k)) ∧
      SameAt k (s.onward steps) (t.onward (steps.filter (Step.concerns k))) := by
  induction steps generalizing s t with
  | nil => exact ⟨rfl, h⟩
  | cons step steps ih =>
    have now := regular step List.mem_cons_self
    have later := fun step' mem => regular step' (List.mem_cons_of_mem step mem)
    cases concerns : step.concerns k with
    | true =>
      obtain ⟨same, after⟩ := h.perform now concerns
      obtain ⟨answers, rest⟩ := ih after later
      rw [answersAt_cons_of_pos concerns, List.filter_cons_of_pos concerns, same, answers]
      exact ⟨rfl, rest⟩
    | false =>
      obtain ⟨answers, rest⟩ := ih (h.perform_other concerns) later
      rw [answersAt_cons_of_neg concerns, List.filter_cons_of_neg (by simp [concerns]), answers]
      exact ⟨rfl, rest⟩

end SameAt

end Session

/-- **Keys do not interfere.**  Take any store, of either kind and in any state, and any run of
operations, direct calls and clock moves.  Leave out of the run what is done under other keys than
one.  Then the steps that are left have the same answers as before; and after each part of the run
the store holds the same under the key, and a search finds the same there at the same time. -/
theorem keys_do_not_interfere (service : Service) (store : Store) (now : Instant) (k : Key)
    {steps : List Session.Step} (regular : ∀ step ∈ steps, step.IsRegular) :
    let s := Session.start service store now
    s.answersAt k steps = s.play (steps.filter (Session.Step.concerns k)) ∧
      ∀ n,
        let among := s.onward (steps.take n)
        let alone := s.onward ((steps.take n).filter (Session.Step.concerns k))
        among.now = alone.now ∧ among.store.only k = alone.store.only k ∧
          (among.store.answer (.find k)).1 = (alone.store.answer (.find k)).1 := by
  intro s
  have same := Session.SameAt.start k service store now
  refine ⟨(same.run regular).1, fun n => ?_⟩
  have part := (same.run fun step mem => regular step (List.mem_of_mem_take (i := n) mem)).2
  exact ⟨part.now, part.only, (Store.answer_of_only_eq (c := .find k) rfl part.only).1⟩

/-- A lock stays as it is while the feature of another tenant, one with a capital letter, one with a
blank at the end and one with another border between subject and feature type are worked with. -/
theorem lookalikes_do_not_interfere :
    let steps : List Session.Step :=
      [.command (.lock ⟨1, "alice", "api"⟩ (some (.ofMillis 5)) ["fraud"]),
        .command (.unlock ⟨2, "alice", "api"⟩), .command (.delete ⟨1, "Alice", "api"⟩), .setClock 4,
        .command (.add ⟨1, "alice ", "api"⟩), .command (.lock ⟨1, "alicea", "pi"⟩ none []),
        .command (.lockReasons ⟨1, "alice", "api"⟩)]
    let store : Store := .database
      ⟨some [.ofFeature (.fresh ⟨2, "alice", "api"⟩), .ofFeature (.fresh ⟨1, "alice", "api"⟩),
        .ofFeature (.fresh ⟨1, "Alice", "api"⟩)], false, .changed, []⟩
    (∀ step ∈ steps, step.IsRegular) ∧
      ((Session.start ⟨.empty, standardDuration⟩ store 0).answersAt ⟨1, "alice", "api"⟩ steps).map
          Session.Answer.result? =
        [some (.ok (.feature ⟨⟨1, "alice", "api"⟩, true, 5, ["fraud"], ["fraud"]⟩)), none,
          some (.ok (.reasons ⟨["fraud"], ["fraud"]⟩))] := by
  intro steps store
  have regular : ∀ step ∈ steps, step.IsRegular := by simp [steps, Session.Step.IsRegular]
  refine ⟨regular, ?_⟩
  rw [(keys_do_not_interfere ⟨.empty, standardDuration⟩ store 0 ⟨1, "alice", "api"⟩ regular).1]
  decide +kernel

end FeatureLock
