import FeatureLock.Proofs.Lock.Alone

/-!
# Lazy expiry cannot be told from an eager sweep

The service takes off an expired lock when a read comes across it.  A service
that took off all of them at once, whenever the clock moves, would give the same
answers: the locks that linger in the store of the one are those that the other
took off before, and no operation can see the difference.

## Main Definitions

- `Sweeper`: the service that sweeps, and whose reads just look
- `Contents.Step.Sweeps`: a step on the map as it is and a step on the map as it
  is swept that come to the same
- `Session.RunsForward`: operations, and clock moves that never go back
- `Session.onward`, `Sweeper.onward`: where a run leads

Main statements: `Service.alone_sweeps`, one operation, and
`lazy_expiry_is_eager_sweep`, a run of them.
-/

namespace FeatureLock

/-! ### Deadlines -/

/-- A lock is not expired when it begins. -/
theorem Service.not_expired_of_lockedAt {s : Service} {now : Instant} {k : Key}
    {d : Option Duration} {codes : List String} {f : Feature}
    (ok : s.lockedAt now k d codes = .ok f) : f.isExpiredAt now = false := by
  obtain ⟨reasons, t, -, deadline, rfl⟩ := lockedAt_ok ok
  refine Bool.eq_false_iff.mpr fun expired => ?_
  obtain ⟨-, positive, past⟩ := (Feature.isExpiredAt_iff _ _).mp expired
  rcases Instant.deadline_ok deadline with rfl | later
  · exact Int64.lt_irrefl positive
  · exact Int64.lt_irrefl (Int64.lt_trans past later)

/-! ### Sweeping -/

namespace Contents

variable {now later : Instant} {m : Contents} {k : Key}

theorem sweep_of_none (absent : m k = none) : m.sweep now k = none := by
  rw [sweep, absent, Option.map_none]

theorem sweep_of_some {f : Feature} (found : m k = some f) :
    m.sweep now k = some (if f.isExpiredAt now then .fresh k else f) := by
  rw [sweep, found, Option.map_some]

/-- A later sweep takes off all that an earlier one did. -/
theorem sweep_sweep (le : now ≤ later) (m : Contents) :
    (m.sweep now).sweep later = m.sweep later := by
  funext k
  cases found : m k with
  | none => rw [sweep_of_none (sweep_of_none found), sweep_of_none found]
  | some f =>
    rw [sweep_of_some (sweep_of_some found), sweep_of_some found]
    cases expired : f.isExpiredAt now with
    | false => simp
    | true => simp [Feature.isExpiredAt_mono le expired]

theorem sweep_update_some {f : Feature} (valid : f.isExpiredAt now = false) (m : Contents)
    (k : Key) :
    sweep now (Function.update m k (some f)) = Function.update (m.sweep now) k (some f) := by
  funext k'
  by_cases h : k' = k
  · subst h
    rw [sweep_of_some (Function.update_self _ _ _), Function.update_self, valid]
    rfl
  · rw [Function.update_of_ne h, sweep, sweep, Function.update_of_ne h]

theorem sweep_update_none (now : Instant) (m : Contents) (k : Key) :
    sweep now (Function.update m k none) = Function.update (m.sweep now) k none := by
  funext k'
  by_cases h : k' = k
  · subst h
    rw [sweep_of_none (Function.update_self _ _ _), Function.update_self]
  · rw [Function.update_of_ne h, sweep, sweep, Function.update_of_ne h]

/-- Whatever a read takes off, a sweep would have taken off. -/
theorem sweep_settle (now : Instant) (k : Key) (m : Contents) :
    (m.settle now k).sweep now = m.sweep now := by
  funext k'
  by_cases h : k' = k
  · subst h
    -- a row that was settled is swept already, and is not swept again
    calc (m.settle now k').sweep now k' = (m.sweep now).sweep now k' := by
          rw [sweep, settle_self]
          rfl
      _ = m.sweep now k' := by rw [sweep_sweep (Int64.le_refl _)]
  · rw [sweep, sweep, settle, Function.update_of_ne h]

/-! ### Steps on a swept map -/

namespace Step

/-- **Two steps come to the same**, one on the map as it is and one on the map as it is swept. -/
def Sweeps (now : Instant) (onMap onSwept : Step) : Prop :=
  ∀ m, (onMap m).1 = (onSwept (m.sweep now)).1 ∧
    (onMap m).2.sweep now = (onSwept (m.sweep now)).2

theorem sweeps_create (now : Instant) (k : Key) : Sweeps now (create k) (create k) := by
  intro m
  cases found : m k with
  | none =>
    simp only [create, found, sweep_of_none found, true_and]
    exact sweep_update_some (Feature.isExpiredAt_fresh k now) m k
  | some f => simp only [create, found, sweep_of_some found, and_self]

theorem sweeps_put {f : Feature} (valid : f.isExpiredAt now = false) :
    Sweeps now (put f) (put f) := by
  intro m
  cases found : m f.key with
  | none => simp only [put, found, sweep_of_none found, and_self]
  | some g =>
    simp only [put, found, sweep_of_some found, true_and]
    exact sweep_update_some valid m f.key

theorem sweeps_remove (now : Instant) (k : Key) : Sweeps now (remove k) (remove k) :=
  fun m => ⟨rfl, sweep_update_none now m k⟩

theorem sweeps_look (now : Instant) (k : Key) (report : Feature → Reply) :
    Sweeps now (lookSettled now k report) (look k report) := by
  intro m
  simp only [lookSettled, look, settle_self]
  cases m.sweep now k <;> exact ⟨rfl, sweep_settle now k m⟩

theorem sweeps_checked {α : Type} {check : Except Complaint α} {onMap onSwept : α → Step}
    (h : ∀ a, check = .ok a → Sweeps now (onMap a) (onSwept a)) :
    Sweeps now (checked check onMap) (checked check onSwept) := by
  cases check with
  | ok a => exact h a rfl
  | error why => exact fun m => ⟨rfl, rfl⟩

end Step

end Contents

/-- **An operation that runs alone** comes to the same as its step on the swept map. -/
theorem Service.alone_sweeps (s : Service) (now : Instant) (c : Command) :
    Contents.Step.Sweeps now (s.alone now c) (s.effect now c) := by
  cases c with
  | add k =>
    simp only [alone, effect]
    exact Contents.Step.sweeps_checked fun _ _ => Contents.Step.sweeps_create now k
  | lock k d codes =>
    simp only [alone, effect]
    exact Contents.Step.sweeps_checked fun f ok =>
      Contents.Step.sweeps_put (not_expired_of_lockedAt ok)
  | lockForDefault k codes =>
    simp only [alone, effect]
    exact Contents.Step.sweeps_checked fun f ok =>
      Contents.Step.sweeps_put (not_expired_of_lockedAt ok)
  | unlock k =>
    simp only [alone, effect]
    exact Contents.Step.sweeps_checked fun _ _ =>
      Contents.Step.sweeps_put (Feature.isExpiredAt_fresh k now)
  | delete k =>
    simp only [alone, effect]
    exact Contents.Step.sweeps_checked fun _ _ => Contents.Step.sweeps_remove now k
  | _ k =>
    simp only [alone, effect, Command.key]
    exact Contents.Step.sweeps_checked fun _ _ => Contents.Step.sweeps_look now k _

/-! ### Runs -/

/-- A service over a map of features.  Whenever the clock moves it takes off all expired locks, and
its reads report what is there. -/
structure Sweeper where
  service : Service
  rows : Contents
  now : Instant

namespace Sweeper

/-- The sweeper over a map of features; it begins with a sweep. -/
def start (service : Service) (rows : Contents) (now : Instant) : Sweeper where
  service := service
  rows := rows.sweep now
  now := now

/-- Move the clock, and sweep. -/
def moveTo (e : Sweeper) (t : Instant) : Sweeper :=
  { e with rows := e.rows.sweep t, now := t }

/-- One step; the result, if the step is an operation. -/
def perform (e : Sweeper) : Session.Step → Option (Except Failure Reply) × Sweeper
  | .command c =>
    (some (e.service.effect e.now c e.rows).1,
      { e with rows := (e.service.effect e.now c e.rows).2 })
  | .setClock t => (none, e.moveTo t)
  | .advance d => (none, e.moveTo (e.now.advance d))
  | _ => (none, e)

/-- Many steps, with the result of each. -/
def play (e : Sweeper) : List Session.Step → List (Option (Except Failure Reply))
  | [] => []
  | step :: steps => (e.perform step).1 :: (e.perform step).2.play steps

/-- Where many steps lead. -/
def onward (e : Sweeper) : List Session.Step → Sweeper
  | [] => e
  | step :: steps => (e.perform step).2.onward steps

end Sweeper

namespace Session

/-- Where many steps lead. -/
def onward (s : Session) : List Step → Session
  | [] => s
  | step :: steps => (s.perform step).2.onward steps

/-- Operations and clock moves, none of which sets the clock back. -/
def RunsForward : Instant → List Step → Prop
  | _, [] => True
  | now, .command _ :: steps => RunsForward now steps
  | now, .setClock t :: steps => now ≤ t ∧ RunsForward t steps
  | now, .advance d :: steps => RunsForward (now.advance d) steps
  | now, .defaultDuration :: steps => RunsForward now steps
  | _, .hook _ _ :: _ => False
  | _, .store _ :: _ => False

theorem RunsForward.take {now : Instant} {steps : List Step} (forward : RunsForward now steps)
    (n : Nat) : RunsForward now (steps.take n) := by
  induction steps generalizing now n with
  | nil => rwa [List.take_nil]
  | cons step steps ih =>
    cases n with
    | zero => trivial
    | succ n =>
      rw [List.take_succ_cons]
      cases step with
      | command c => exact ih forward n
      | setClock t => exact ⟨forward.1, ih forward.2 n⟩
      | advance d => exact ih forward n
      | defaultDuration => exact ih forward n
      | hook kind h => exact forward
      | store step => exact forward

/-- A session and a sweeper that cannot be told apart: they have the same service and the same
time, and the sweeper holds what the session holds once it is swept. -/
structure IsSwept (b : Backend) (s : Session) (e : Sweeper) : Prop where
  plain : s.IsPlain b
  service : e.service = s.service
  now : e.now = s.now
  rows : e.rows = s.store.contents.sweep s.now

namespace IsSwept

variable {b : Backend} {s : Session} {e : Sweeper}

/-- **An operation has the same result**, and leaves a session and a sweeper that cannot be told
apart. -/
theorem perform_command (h : s.IsSwept b e) (c : Command) :
    (s.perform (.command c)).1.result? = (e.perform (.command c)).1 ∧
      (s.perform (.command c)).2.IsSwept b (e.perform (.command c)).2 ∧
      (s.perform (.command c)).2.now = s.now := by
  obtain ⟨result, ledger, plain, service⟩ := h.plain.perform_command c
  obtain ⟨same, rows⟩ := s.service.alone_sweeps s.now c s.store.contents
  have stored : (s.perform (.command c)).2.store.contents =
      (s.service.alone s.now c s.store.contents).2 := congrArg Ledger.rows ledger
  have now : (s.perform (.command c)).2.now = s.now := congrArg Ledger.now ledger
  refine ⟨?_, ⟨plain, h.service.trans service.symm, h.now.trans now.symm, ?_⟩, now⟩
  · rw [result, same]
    simp only [Sweeper.perform, h.service, h.now, h.rows]
  · rw [stored, now, rows]
    simp only [Sweeper.perform, h.service, h.now, h.rows]

/-- A move of the clock, and a sweep. -/
theorem moveTo (h : s.IsSwept b e) {t : Instant} (le : s.now ≤ t) :
    IsSwept b { s with now := t } (e.moveTo t) := by
  refine ⟨⟨h.plain.kept, h.plain.quiet⟩, h.service, rfl, ?_⟩
  rw [Sweeper.moveTo, h.rows]
  exact Contents.sweep_sweep le s.store.contents

/-- **A step has the same result**, and what follows it still runs forward. -/
theorem perform (h : s.IsSwept b e) {step : Step} {steps : List Step}
    (forward : RunsForward s.now (step :: steps)) :
    (s.perform step).1.result? = (e.perform step).1 ∧
      (s.perform step).2.IsSwept b (e.perform step).2 ∧
      RunsForward (s.perform step).2.now steps := by
  cases step with
  | command c =>
    obtain ⟨result, swept, now⟩ := h.perform_command c
    refine ⟨result, swept, ?_⟩
    rw [now]
    exact forward
  | setClock t => exact ⟨rfl, h.moveTo forward.1, forward.2⟩
  | advance d =>
    simp only [Session.perform, Sweeper.perform, h.now]
    exact ⟨rfl, h.moveTo (s.now.le_advance d), forward⟩
  | defaultDuration => exact ⟨rfl, h, forward⟩
  | hook kind hook => exact forward.elim
  | store step => exact forward.elim

/-- **A run has the same results**, and leaves a session and a sweeper that cannot be told apart. -/
theorem run (h : s.IsSwept b e) {steps : List Step} (forward : RunsForward s.now steps) :
    (s.play steps).map Answer.result? = e.play steps ∧
      (s.onward steps).IsSwept b (e.onward steps) := by
  -- the steps that follow start from another session and another sweeper
  induction steps generalizing s e with
  | nil => exact ⟨rfl, h⟩
  | cons step steps ih =>
    obtain ⟨result, swept, forward'⟩ := h.perform forward
    obtain ⟨results, rest⟩ := ih swept forward'
    simp only [play, Sweeper.play, List.map_cons, result, results, true_and]
    exact rest

/-- What a session and its sweeper hold is the same once both are swept. -/
theorem sweep_eq (h : s.IsSwept b e) :
    s.store.contents.sweep s.now = e.rows.sweep e.now := by
  rw [h.rows, h.now, Contents.sweep_sweep (Int64.le_refl _)]

end IsSwept

end Session

/-- **Lazy expiry cannot be told from an eager sweep.**  From any features that were stored by
calls, in either kind of store, a run of operations and of clock moves that never go back has the
same results, one by one, as the run of the service that sweeps; and at every point of the run both
hold the same features at the same time, once all expired locks are taken off. -/
theorem lazy_expiry_is_eager_sweep (b : Backend) (written : List Call) (service : Service)
    (start : Instant) (steps : List Session.Step) (forward : Session.RunsForward start steps) :
    ((Session.start service (b.empty.after written) start).play steps).map
          Session.Answer.result? =
        (Sweeper.start service (b.empty.after written).contents start).play steps ∧
      ∀ n,
        let lazily := (Session.start service (b.empty.after written) start).onward (steps.take n)
        let eagerly :=
          (Sweeper.start service (b.empty.after written).contents start).onward (steps.take n)
        lazily.now = eagerly.now ∧
          lazily.store.contents.sweep lazily.now = eagerly.rows.sweep eagerly.now := by
  have kept := (Store.isKept_empty b).after written
  have swept : (Session.start service (b.empty.after written) start).IsSwept b
      (Sweeper.start service (b.empty.after written).contents start) :=
    ⟨Session.isPlain_start service kept start, rfl, rfl, rfl⟩
  refine ⟨(swept.run forward).1, fun n => ?_⟩
  have rest := (swept.run (forward.take n)).2
  exact ⟨rest.now.symm, rest.sweep_eq⟩

/-- A lock that is read before and after its deadline, and a feature that is taken all the while. -/
theorem lock_expires_for_both :
    Session.RunsForward 5
        [.command (.read ⟨1, "alice", "api"⟩), .setClock 20, .command (.add ⟨1, "alice", "api"⟩),
          .command (.read ⟨1, "alice", "api"⟩)] ∧
      ((Session.start ⟨.empty, standardDuration⟩
            (Backend.memory.empty.after
              [.insert ⟨⟨1, "alice", "api"⟩, true, 10, ["fraud"], ["fraud"]⟩]) 5).play
          [.command (.read ⟨1, "alice", "api"⟩), .setClock 20,
            .command (.add ⟨1, "alice", "api"⟩), .command (.read ⟨1, "alice", "api"⟩)]).map
          Session.Answer.result? =
        [some (.ok (.feature ⟨⟨1, "alice", "api"⟩, true, 10, ["fraud"], ["fraud"]⟩)), none,
          some (.error (.alreadyExists ⟨1, "alice", "api"⟩)),
          some (.ok (.feature (.fresh ⟨1, "alice", "api"⟩)))] := by
  have forward : Session.RunsForward 5
      [.command (.read ⟨1, "alice", "api"⟩), .setClock 20, .command (.add ⟨1, "alice", "api"⟩),
        .command (.read ⟨1, "alice", "api"⟩)] := ⟨by decide, trivial⟩
  exact ⟨forward, (lazy_expiry_is_eager_sweep .memory _ _ _ _ forward).1.trans rfl⟩

end FeatureLock
