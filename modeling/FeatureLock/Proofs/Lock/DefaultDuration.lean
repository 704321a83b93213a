import FeatureLock.Host
import FeatureLock.Proofs.Lock.Lapse
import FeatureLock.Proofs.Lock.Refusal

/-!
# The default duration of locks

The configuration gives the default duration of locks: a positive number of milliseconds, or
five minutes where there is none.  A lock for it ends exactly so many milliseconds later, if
there is an instant as late as that, and is refused otherwise.  The configuration knows no
bound from above, so it can give a duration for which every lock is refused.

Main statements: `Configuration.defaultLock_within`, the bounds of the default duration;
`default_lock_is_exact_or_out_of_range`; and `default_lock_of_greatest_duration_is_refused`,
a configuration with which every lock for the default duration fails.
-/

namespace FeatureLock

/-! ### What is configured -/

theorem Duration.millis_ofMillis (ms : UInt64) : (ofMillis ms).millis = ms.toNat := by
  have thousand : (1000 : UInt64).toNat = 1000 := rfl
  simp only [millis, ofMillis, Fin.ofNat, UInt64.toNat_div, thousand]
  omega

/-- A value that is read as an integer is within 64 bits. -/
theorem Value.asInt?_within {v : Value} {n : Int} (reads : v.asInt? = some n) :
    Instant.minMillis ≤ n ∧ n ≤ Instant.maxMillis := by
  cases v with
  | int m =>
    simp only [asInt?, Option.ite_none_right_eq_some, Option.some_inj] at reads
    obtain ⟨within, rfl⟩ := reads
    exact within
  | bool b =>
    cases reads
    cases b <;> decide
  | float x =>
    simp only [asInt?, Option.some_inj] at reads
    subst reads
    cases x with
    | nan => decide
    | infinite negative => cases negative <;> decide
    | finite negative m e =>
      -- what is rounded is cut off at both ends
      exact ⟨Int.le_max_left _ _, Int.max_le.mpr ⟨by decide, Int.min_le_left _ _⟩⟩
  | text s =>
    simp only [asInt?] at reads
    split at reads
    · cases reads
      decide
    · split at reads
      · cases reads
        decide
      · exact of_decide_eq_true (Option.filter_eq_some_iff.mp reads).2
  | null => cases reads
  | list vs => cases reads
  | table es => cases reads

namespace Configuration

variable {c : Configuration} {n : Int}

theorem int?_within {p : Path} (there : c.int? p = some n) :
    Instant.minMillis ≤ n ∧ n ≤ Instant.maxMillis := by
  obtain ⟨v, -, reads⟩ := Option.bind_eq_some_iff.mp there
  exact Value.asInt?_within reads

/-- **A positive number is the default duration in milliseconds.** -/
theorem millis_defaultLock (there : c.int? defaultLockPath = some n) (positive : 0 < n) :
    (c.defaultLock.millis : Int) = n := by
  have small : n ≤ 9223372036854775807 := (int?_within there).2
  simp only [defaultLock, there, positive, if_true, Duration.millis_ofMillis]
  rw [UInt64.toNat_ofNat']
  omega

/-- Without a positive number the default duration is five minutes. -/
theorem defaultLock_eq_standard (unusable : ∀ n, c.int? defaultLockPath = some n → n ≤ 0) :
    c.defaultLock = standardDuration := by
  unfold defaultLock
  split
  · next n there => exact if_neg (Int.not_lt.mpr (unusable n there))
  · rfl

/-- **The bounds of the default duration.** -/
theorem defaultLock_within (c : Configuration) :
    c.defaultLock.millis ≠ 0 ∧ (c.defaultLock.millis : Int) ≤ Instant.maxMillis := by
  by_cases usable : ∃ n, c.int? defaultLockPath = some n ∧ 0 < n
  · obtain ⟨n, there, positive⟩ := usable
    have millis := millis_defaultLock there positive
    exact ⟨by omega, millis ▸ (int?_within there).2⟩
  · rw [defaultLock_eq_standard fun n there => Int.not_lt.mp fun positive =>
      usable ⟨n, there, positive⟩]
    decide

end Configuration

/-- **The service of a host** has the configured reasons and the configured default duration. -/
theorem App.service_of_build {c : Configuration} {app : App} (built : (build c).1 = .ok app) :
    c.reasonCatalog = .ok app.service.catalog ∧ app.service.defaultDuration = c.defaultLock := by
  unfold build at built
  split at built
  · cases built
  · split at built
    · cases built
    · next store log _ =>
      unfold serve at built
      cases reasons : c.reasonCatalog with
      | error e =>
        rw [reasons] at built
        cases built
      | ok catalog =>
        rw [reasons] at built
        cases built
        exact ⟨rfl, rfl⟩

/-! ### Deadlines of durations within bounds -/

namespace Instant

variable {now : Instant} {d : Duration}

theorem deadline_eq (positive : d.millis ≠ 0) (within : (d.millis : Int) ≤ maxMillis) :
    now.deadline (some d) =
      if maxMillis < now.toInt + d.millis then .error (.durationOutOfRange d)
      else .ok (Int64.ofInt (now.toInt + d.millis)) := by
  have late : ¬ maxMillis < (d.millis : Int) := Int.not_lt.mpr within
  rw [deadline, if_neg positive, if_neg late, after?_eq]
  by_cases beyond : maxMillis < now.toInt + d.millis
  · rw [if_pos beyond, if_pos beyond]
  · rw [if_neg beyond, if_neg beyond]

end Instant

/-- The feature of a lock whose key and codes are accepted. -/
theorem Service.lockedAt_eq {s : Service} {k : Key} {codes : List String} {r : LockReasons}
    (valid : k.validate = .ok ()) (resolved : s.catalog.resolve codes = .ok r) (now : Instant)
    (d : Option Duration) :
    s.lockedAt now k d codes =
      (now.deadline d).map fun t => ⟨k, true, t, r.codes, r.reasons⟩ := by
  unfold lockedAt
  rw [valid, resolved]
  cases now.deadline d <;> rfl

namespace Session

variable {b : Backend} {s : Session} {k : Key} {d : Option Duration} {codes : List String}
  {f f₀ : Feature} {why : Complaint}

/-- **A lock of a stored feature whose arguments are accepted** is granted, and stored. -/
theorem Shows.lock_granted (shows' : s.Shows b k f₀)
    (locks : s.service.lockedAt s.now k d codes = .ok f) :
    (s.perform (.command (.lock k d codes))).1.result? = some (.ok (.feature f)) ∧
      Shows b k f (s.perform (.command (.lock k d codes))).2 := by
  obtain ⟨result, -, plain, -⟩ := shows'.plain.perform_command (.lock k d codes)
  have rows := shows'.plain.contents_perform (.lock k d codes)
  have key : f.key = k := by
    obtain ⟨_, _, -, -, rfl⟩ := Service.lockedAt_ok locks
    rfl
  have puts : s.service.alone s.now (.lock k d codes) s.store.contents =
      (.ok (.feature f), Function.update s.store.contents k (some f)) := by
    simp only [Service.alone, Service.effect, locks, Contents.Step.checked, Contents.Step.put, key,
      shows'.found]
  rw [puts] at result rows
  refine ⟨result, plain, ?_⟩
  rw [rows]
  exact Function.update_self _ _ _

/-- A lock whose arguments are not accepted is refused, and nothing changes. -/
theorem IsPlain.lock_refused (plain : s.IsPlain b)
    (refused : s.service.lockedAt s.now k d codes = .error why) :
    (s.perform (.command (.lock k d codes))).1.result? =
        some (.error (.illegalArgument why)) ∧
      (s.perform (.command (.lock k d codes))).2.store.contents = s.store.contents := by
  obtain ⟨result, -⟩ := plain.perform_command (.lock k d codes)
  have rows := plain.contents_perform (.lock k d codes)
  have refuses : s.service.alone s.now (.lock k d codes) s.store.contents =
      (.error (.illegalArgument why), s.store.contents) := by
    simp only [Service.alone, Service.effect, refused, Contents.Step.checked, Contents.Step.refuse]
  rw [refuses] at result rows
  exact ⟨result, rows⟩

/-- A lock for the default duration is a lock for a duration. -/
theorem perform_lockForDefault (s : Session) (k : Key) (codes : List String) :
    s.perform (.command (.lockForDefault k codes)) =
      s.perform (.command (.lock k (some s.service.defaultDuration) codes)) := by
  have same : s.service.perform (.lockForDefault k codes) =
      s.service.perform (.lock k (some s.service.defaultDuration) codes) := rfl
  simp only [perform, same, Command.key]

end Session

/-- **A lock for the default duration ends exactly so many milliseconds later, or is out of range.**
The service of a host has a positive configured number as its default duration in milliseconds, and
five minutes if no such number is configured.  In a session of this service, over either kind of
store and whatever happened there before, an existing feature with an acceptable key is locked for
it, for codes that are accepted:

- If the sum of the clock reading and the default duration is within 64 bits, the lock is granted
  and stored, and the sum is its deadline.
- Otherwise it is refused, and nothing changes. -/
theorem default_lock_is_exact_or_out_of_range {c : Configuration} {app : App}
    (built : (App.build c).1 = .ok app) :
    (∀ n, c.int? Configuration.defaultLockPath = some n → 0 < n →
      (app.service.defaultDuration.millis : Int) = n) ∧
    ((∀ n, c.int? Configuration.defaultLockPath = some n → n ≤ 0) →
      app.service.defaultDuration.millis = 300000) ∧
    ∀ (b : Backend) (s : Session) (k : Key) (f₀ : Feature) (codes : List String) (r : LockReasons),
      s.service = app.service → s.Shows b k f₀ → k.validate = .ok () →
      s.service.catalog.resolve codes = .ok r →
      let deadline : Int := s.now.toInt + app.service.defaultDuration.millis
      let locked := s.perform (.command (.lockForDefault k codes))
      (deadline ≤ Instant.maxMillis → ∃ t : Instant, t.toInt = deadline ∧
        locked.1.result? = some (.ok (.feature ⟨k, true, t, r.codes, r.reasons⟩)) ∧
        (locked.2.store.answer (.find k)).1 =
          .ok (some ⟨k, true, t, r.codes, r.reasons⟩)) ∧
      (Instant.maxMillis < deadline →
        locked.1.result? = some (.error (.illegalArgument
          (.durationOutOfRange app.service.defaultDuration))) ∧
        locked.2.store.contents = s.store.contents) := by
  obtain ⟨-, duration⟩ := App.service_of_build built
  obtain ⟨positive, within⟩ := c.defaultLock_within
  rw [duration]
  refine ⟨fun n there => Configuration.millis_defaultLock there, fun unusable => ?_, ?_⟩
  · rw [Configuration.defaultLock_eq_standard unusable]
    rfl
  · intro b s k f₀ codes r service shows' valid resolved deadline locked
    have default : s.service.defaultDuration = c.defaultLock := by rw [service, duration]
    have locks := Service.lockedAt_eq valid resolved s.now (some c.defaultLock)
    have same : locked = s.perform (.command (.lock k (some c.defaultLock) codes)) := by
      rw [← default]
      exact s.perform_lockForDefault k codes
    rw [same]
    constructor
    · intro fits
      have granted : s.now.deadline (some c.defaultLock) = .ok (.ofInt deadline) := by
        rw [Instant.deadline_eq positive within, if_neg (Int.not_lt.mpr fits)]
      rw [granted] at locks
      obtain ⟨answered, shown⟩ := shows'.lock_granted locks
      exact ⟨_, Instant.toInt_deadline granted, answered, shown.answer_find⟩
    · intro beyond
      have late : s.now.deadline (some c.defaultLock) =
          .error (.durationOutOfRange c.defaultLock) := by
        rw [Instant.deadline_eq positive within, if_pos beyond]
      rw [late] at locks
      exact shows'.plain.lock_refused locks

/-- A configuration that keeps features in memory and sets the default duration. -/
def Configuration.lasting (millis : Int) : Configuration where
  tree := .table [("featgate", .table [("storage", .table [("mode", .text "mem")]),
    ("lock", .table [("default_duration_ms", .int millis)])])]
  env := []

/-- A lock for a default duration of a minute. -/
theorem default_lock_of_minute_is_exact :
    let service : Service := ⟨.empty, ⟨60, 0⟩⟩
    let s := Session.start service
      (Backend.memory.empty.after [.insert (.fresh ⟨1, "alice", "api"⟩)]) 1000
    (App.build (.lasting 60000)).1 = .ok ⟨.memory .empty, service⟩ ∧
      ∃ t : Instant, t.toInt = 61000 ∧
        (s.perform (.command (.lockForDefault ⟨1, "alice", "api"⟩ ["fraud"]))).1.result? =
          some (.ok (.feature ⟨⟨1, "alice", "api"⟩, true, t, ["fraud"], ["fraud"]⟩)) := by
  intro service s
  have duration : (Configuration.lasting 60000).defaultLock = ⟨60, 0⟩ := by decide
  have built : (App.build (.lasting 60000)).1 = .ok ⟨.memory .empty, service⟩ := by
    rw [show service = ⟨.empty, (Configuration.lasting 60000).defaultLock⟩ by rw [duration]]
    rfl
  have shows' : s.Shows .memory ⟨1, "alice", "api"⟩ (.fresh ⟨1, "alice", "api"⟩) :=
    ⟨Session.isPlain_start _ ((Store.isKept_empty .memory).after _) _, rfl⟩
  obtain ⟨-, -, exact_or_refused⟩ := default_lock_is_exact_or_out_of_range built
  obtain ⟨granted, -⟩ := exact_or_refused .memory s ⟨1, "alice", "api"⟩ _ ["fraud"]
    ⟨["fraud"], ["fraud"]⟩ rfl shows' rfl rfl
  obtain ⟨t, sum, answered, -⟩ := granted (by decide)
  exact ⟨built, t, sum.trans (by decide), answered⟩

/-- **A default duration can be too long for any clock.**  A host starts with the greatest duration
that can be configured, and a second after the epoch it refuses every lock for it, where a lock for
five minutes is granted. -/
theorem default_lock_of_greatest_duration_is_refused :
    ∃ app, (App.build (.lasting 9223372036854775807)).1 = .ok app ∧
      let s := Session.start app.service
        (app.store.after [.insert (.fresh ⟨1, "alice", "api"⟩)]) 1000
      (s.perform (.command (.lockForDefault ⟨1, "alice", "api"⟩ ["fraud"]))).1.result? =
        some (.error (.illegalArgument (.durationOutOfRange ⟨9223372036854775, 807000000⟩))) ∧
      (s.perform (.command (.lock ⟨1, "alice", "api"⟩ (some standardDuration)
        ["fraud"]))).1.result? =
        some (.ok (.feature ⟨⟨1, "alice", "api"⟩, true, 301000, ["fraud"], ["fraud"]⟩)) := by
  have duration : (Configuration.lasting 9223372036854775807).defaultLock =
      ⟨9223372036854775, 807000000⟩ := by decide
  have built : (App.build (.lasting 9223372036854775807)).1 =
      .ok ⟨.memory .empty, ⟨.empty, ⟨9223372036854775, 807000000⟩⟩⟩ := by
    rw [← duration]
    rfl
  exact ⟨_, built, rfl, rfl⟩

end FeatureLock
