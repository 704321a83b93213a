import FeatureLock.Proofs.Lock.Deadline

/-!
# A timed lock lapses, if its deadline comes after the epoch

A lock for a duration gets the instant at which it is to end as its deadline.  The
number zero in place of a deadline stands for none, and a lock is expired only if its
deadline is positive.  So a clock that stands far enough before the epoch turns a lock
for a duration into one that is never taken off.

Main statements: `Session.IsPlain.lock_shows`, what a lock that is granted leaves behind;
`timed_lock_lapses_after_epoch`, when it lapses; and
`timed_lock_without_end`, a lock for five milliseconds that does not.
-/

namespace FeatureLock

/-! ### Deadlines -/

/-- The deadline of a lock for a duration is the sum of whole milliseconds, without any overflow. -/
theorem Instant.toInt_deadline {now t : Instant} {d : Duration}
    (ok : now.deadline (some d) = .ok t) : t.toInt = now.toInt + d.millis := by
  simp only [deadline] at ok
  split at ok
  · cases ok
  · split at ok
    · cases ok
    · split at ok
      · next later =>
        cases ok
        exact toInt_of_ofInt? later
      · cases ok

namespace Feature

variable {f : Feature}

theorem isIndefinite_iff (f : Feature) :
    f.isIndefinite = true ↔ f.locked = true ∧ f.unlockTime = noDeadline := by
  simp only [isIndefinite, Bool.and_eq_true, beq_iff_eq]

/-- **A lock whose deadline is not positive stays whenever it is read.** -/
theorem latched_of_not_positive (never : ¬ noDeadline < f.unlockTime) (times : List Instant) :
    f.latched times = f := by
  refine if_neg fun expired => ?_
  obtain ⟨t, -, expired⟩ := List.any_eq_true.mp expired
  exact never ((f.isExpiredAt_iff t).mp expired).2.1

end Feature

/-! ### Locks that are granted -/

namespace Contents.Step

/-- What a replacement answers when it took place: its feature, which is then stored. -/
theorem put_ok {m : Contents} {f : Feature} {reply : Reply} (ok : (put f m).1 = .ok reply) :
    reply = .feature f ∧ (put f m).2 f.key = some f := by
  cases found : m f.key with
  | none =>
    simp only [put, found] at ok
    cases ok
  | some g =>
    simp only [put, found] at ok ⊢
    cases ok
    exact ⟨rfl, Function.update_self _ _ _⟩

/-- A step that came to a reply had its arguments accepted. -/
theorem checked_ok {α : Type} {check : Except Complaint α} {step : α → Step} {m : Contents}
    {reply : Reply} (ok : (checked check step m).1 = .ok reply) :
    ∃ a, check = .ok a ∧ checked check step = step a := by
  cases check with
  | ok a => exact ⟨a, rfl, rfl⟩
  | error why => cases ok

end Contents.Step

namespace Session

variable {b : Backend} {k : Key} {d : Option Duration} {codes : List String} {f : Feature}
  {reply : Reply}

/-- **A lock that is granted** answers the feature that is stored from then on: the one with the
lock that begins now. -/
theorem IsPlain.lock_shows {s : Session} (plain : s.IsPlain b)
    (granted : (s.perform (.command (.lock k d codes))).1.result? = some (.ok reply)) :
    ∃ f, reply = .feature f ∧ k.validate = .ok () ∧ s.service.lockedAt s.now k d codes = .ok f ∧
      Shows b k f (s.perform (.command (.lock k d codes))).2 := by
  obtain ⟨result, -, plain', -⟩ := plain.perform_command (.lock k d codes)
  have rows := plain.contents_perform (.lock k d codes)
  rw [granted, Option.some_inj] at result
  have valid : k.validate = .ok () := by
    cases validity : k.validate with
    | ok _ => rfl
    | error why =>
      have refused : (Command.lock k d codes).key.validate = .error why := validity
      rw [Service.alone_of_refused refused] at result
      cases result
  simp only [Service.alone, Service.effect] at result rows
  obtain ⟨f, locks, puts⟩ := Contents.Step.checked_ok result.symm
  rw [puts] at result rows
  obtain ⟨reports, row⟩ := Contents.Step.put_ok result.symm
  have key : f.key = k := by
    obtain ⟨_, _, -, -, rfl⟩ := Service.lockedAt_ok locks
    rfl
  refine ⟨f, reports, valid, locks, plain', ?_⟩
  rw [rows, ← key]
  exact row

/-- A feature that was only read for a while is read once more. -/
theorem Shows.read_after {s : Session} (h : Shows b k f s) (valid : k.validate = .ok ())
    {steps : List Step} (spares : ∀ step ∈ steps, step.Spares k) {c : Command} (key : c.key = k)
    (looks : c.IsRead) :
    ((s.onward steps).perform (.command c)).1.result? =
      some (.ok (c.report (f.latched (readTimes k s.now steps ++ [(s.onward steps).now])))) := by
  have shown := ((Reading.latched b valid).run h spares).1
  rw [(shown.read key looks valid).1, Feature.latched_append]

end Session

/-- **A lock for a duration lapses, if its deadline comes after the epoch.**  In either kind of
store, whatever was stored before and wherever the clock stands: when a lock for a duration is
granted, it answers the feature that is then stored.

- It is locked until the sum of the clock reading and the whole milliseconds of the duration.
- It is indefinite exactly when that sum is zero.
- While the feature is only read, and the clock is set in any way, a read that comes after a
  positive sum reports the fresh feature.
- If the sum is not positive every read reports the lock, whatever the time. -/
theorem timed_lock_lapses_after_epoch (b : Backend) (written : List Call) (service : Service)
    (now : Instant) {k : Key} {d : Duration} {codes : List String} {reply : Reply}
    (granted : ((Session.start service (b.empty.after written) now).perform
      (.command (.lock k (some d) codes))).1.result? = some (.ok reply)) :
    let s := ((Session.start service (b.empty.after written) now).perform
      (.command (.lock k (some d) codes))).2
    let deadline : Int := now.toInt + d.millis
    ∃ f, reply = .feature f ∧ (s.store.answer (.find k)).1 = .ok (some f) ∧
      f.key = k ∧ f.locked = true ∧ f.unlockTime.toInt = deadline ∧
      (f.isIndefinite = true ↔ deadline = 0) ∧
      ∀ steps : List Session.Step, (∀ step ∈ steps, step.Spares k) →
        ∀ c : Command, c.key = k → c.IsRead →
          (0 < deadline → deadline < (s.onward steps).now.toInt →
            ((s.onward steps).perform (.command c)).1.result? =
              some (.ok (c.report (.fresh k)))) ∧
          (deadline ≤ 0 →
            ((s.onward steps).perform (.command c)).1.result? = some (.ok (c.report f))) := by
  intro s deadline
  have plain := Session.isPlain_start service ((Store.isKept_empty b).after written) now
  obtain ⟨f, reports, valid, locks, shows'⟩ := plain.lock_shows granted
  obtain ⟨reasons, t, -, ok, made⟩ := Service.lockedAt_ok locks
  have key : f.key = k := congrArg Feature.key made
  have locked : f.locked = true := congrArg Feature.locked made
  have sum : f.unlockTime.toInt = deadline := by
    rw [congrArg Feature.unlockTime made]
    exact Instant.toInt_deadline ok
  have zero : noDeadline.toInt = 0 := rfl
  refine ⟨f, reports, shows'.answer_find, key, locked, sum, ?_, ?_⟩
  · rw [Feature.isIndefinite_iff, ← Int64.toInt_inj, zero, sum]
    exact and_iff_right locked
  · intro steps spares c own looks
    refine ⟨fun positive past => ?_, fun notPositive => ?_⟩
    · rw [shows'.read_after valid spares own looks]
      have ahead : noDeadline < f.unlockTime := by
        rw [Int64.lt_iff_toInt_lt, zero, sum]
        exact positive
      have late : f.unlockTime < (s.onward steps).now := by
        rw [Int64.lt_iff_toInt_lt, sum]
        exact past
      rw [Feature.latched_of_past locked ahead, key]
      intro within
      have last := within _ (List.mem_append_right _ (List.mem_singleton_self _))
      exact Int64.lt_irrefl (Int64.lt_of_lt_of_le late last)
    · have never : ¬ noDeadline < f.unlockTime := by
        rw [Int64.lt_iff_toInt_lt, zero, sum]
        exact Int.not_lt.mpr notPositive
      rw [shows'.read_after valid spares own looks, Feature.latched_of_not_positive never]

/-- A lock that begins before the epoch and ends after it lapses. -/
theorem lock_across_epoch_lapses :
    let s := ((Session.start ⟨.empty, standardDuration⟩ (Backend.memory.empty.after
      [.insert (.fresh ⟨1, "alice", "api"⟩)]) (-5)).perform
        (.command (.lock ⟨1, "alice", "api"⟩ (some (.ofMillis 12)) ["fraud"]))).2
    ((s.onward [.command (.read ⟨1, "alice", "api"⟩), .setClock 8]).perform
        (.command (.isLocked ⟨1, "alice", "api"⟩))).1.result? = some (.ok (.flag false)) := by
  intro s
  have granted : ((Session.start ⟨.empty, standardDuration⟩ (Backend.memory.empty.after
      [.insert (.fresh ⟨1, "alice", "api"⟩)]) (-5)).perform
        (.command (.lock ⟨1, "alice", "api"⟩ (some (.ofMillis 12)) ["fraud"]))).1.result? =
      some (.ok (.feature ⟨⟨1, "alice", "api"⟩, true, 7, ["fraud"], ["fraud"]⟩)) := rfl
  obtain ⟨f, -, -, -, -, -, -, reads⟩ :=
    timed_lock_lapses_after_epoch .memory _ _ (-5) granted
  refine (reads [.command (.read ⟨1, "alice", "api"⟩), .setClock 8] ?_
    (.isLocked ⟨1, "alice", "api"⟩) rfl trivial).1 (by decide) (by decide)
  simp [Session.Step.Spares, Command.IsRead]

/-- **A lock for a duration can turn into one without end.**  Five milliseconds before the epoch a
feature is locked for five milliseconds, and a second later it is still reported as locked. -/
theorem timed_lock_without_end :
    let s := Session.start ⟨.empty, standardDuration⟩ (Backend.memory.empty.after
      [.insert (.fresh ⟨1, "alice", "api"⟩)]) (-5)
    let lock := s.perform (.command (.lock ⟨1, "alice", "api"⟩ (some (.ofMillis 5)) ["fraud"]))
    ∃ f, lock.1.result? = some (.ok (.feature f)) ∧ f.isIndefinite = true ∧
      f.unlockTime < (1000 : Instant) ∧
      ((lock.2.onward [.setClock 1000]).perform
        (.command (.isLocked ⟨1, "alice", "api"⟩))).1.result? = some (.ok (.flag true)) :=
  ⟨⟨⟨1, "alice", "api"⟩, true, 0, ["fraud"], ["fraud"]⟩, rfl, rfl, by decide, rfl⟩

end FeatureLock
