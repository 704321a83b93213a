import FeatureLock.Proofs.Lock.EagerSweep

/-!
# A deadline that is passed once is passed for good

While a feature is only read, its lock stays until a read comes after the deadline.
That read takes the lock off in the store, so all later ones find the feature open,
even if the clock is set back before the deadline.  What a read reports therefore
depends on all the instants at which the feature was read so far.

## Main Definitions

- `Feature.latched`: the feature once it was read at some instants
- `Session.Step.Spares`: the steps that leave a feature to its readers
- `Session.readTimes`: the instants at which the steps of a session read a feature
- `Session.Shows`, `Session.Reading`: a session that shows a feature, and how reads
  change that

Main statements: `Service.alone_of_ne`, an operation leaves the features of other keys
alone; `Session.Reading.run`, what a run of reads leaves; and
`deadline_is_exact_and_latched`.
-/

namespace FeatureLock

/-! ### Instants of reads -/

namespace Feature

/-- **The feature once it was read at some instants**: open if its lock was expired at one of
them. -/
def latched (f : Feature) (times : List Instant) : Feature :=
  if times.any f.isExpiredAt then .fresh f.key else f

variable {f : Feature} {times : List Instant}

/-- Instants count one after the other. -/
theorem latched_append (f : Feature) (earlier later : List Instant) :
    f.latched (earlier ++ later) = (f.latched earlier).latched later := by
  by_cases expired : earlier.any f.isExpiredAt = true
  · have open' : later.any (fresh f.key).isExpiredAt = false := by
      simp only [isExpiredAt_fresh, List.any_eq_false, Bool.false_eq_true, not_false_eq_true,
        implies_true]
    simp [latched, expired, open']
  · simp [latched, expired]

/-- **A lock with a deadline stays as long as no read comes after the deadline.** -/
theorem latched_of_within (within : ∀ t ∈ times, t ≤ f.unlockTime) : f.latched times = f := by
  refine if_neg fun expired => ?_
  obtain ⟨t, read, expired⟩ := List.any_eq_true.mp expired
  obtain ⟨-, -, past⟩ := (f.isExpiredAt_iff t).mp expired
  exact Int64.lt_irrefl (Int64.lt_of_lt_of_le past (within t read))

/-- **A read that comes after the deadline takes the lock off.** -/
theorem latched_of_past (locked : f.locked = true) (deadline : noDeadline < f.unlockTime)
    (past : ¬ ∀ t ∈ times, t ≤ f.unlockTime) : f.latched times = .fresh f.key := by
  simp only [not_forall, Int64.not_le] at past
  obtain ⟨t, read, late⟩ := past
  exact if_pos (List.any_eq_true.mpr ⟨t, read, (f.isExpiredAt_iff t).mpr ⟨locked, deadline, late⟩⟩)

/-- A lock without a deadline stays whenever it is read. -/
theorem latched_of_noDeadline (indefinite : f.unlockTime = noDeadline) : f.latched times = f := by
  refine if_neg fun expired => ?_
  obtain ⟨t, -, expired⟩ := List.any_eq_true.mp expired
  rw [isExpiredAt_of_noDeadline indefinite] at expired
  cases expired

end Feature

/-! ### Operations that run alone -/

namespace Contents

/-- A look at a feature that takes off its lock if it is expired. -/
theorem lookSettled_of_some {m : Contents} {k : Key} {f : Feature} (found : m k = some f)
    (key : f.key = k) (now : Instant) (report : Feature → Reply) :
    (Step.lookSettled now k report m).1 = .ok (report (f.latched [now])) ∧
      (Step.lookSettled now k report m).2 k = some (f.latched [now]) := by
  have settled : m.settle now k k = some (f.latched [now]) := by
    rw [settle_self, sweep_of_some found]
    simp only [Feature.latched, List.any_cons, List.any_nil, Bool.or_false, key]
  simp only [Step.lookSettled, Step.look, settled, and_self]

namespace Step

variable {m : Contents} {k k' : Key}

theorem checked_of_error {α : Type} {check : Except Complaint α} {step : α → Step} {why : Complaint}
    (refused : check = .error why) : checked check step = refuse why := by
  rw [refused]
  rfl

theorem checked_leaves {α : Type} {check : Except Complaint α} {step : α → Step}
    (each : ∀ a, check = .ok a → (step a m).2 k = m k) : (checked check step m).2 k = m k := by
  cases check with
  | ok a => exact each a rfl
  | error why => rfl

theorem create_leaves (other : k ≠ k') : (create k' m).2 k = m k := by
  simp only [create]
  split
  · rfl
  · exact Function.update_of_ne other _ _

theorem put_leaves {f : Feature} (other : k ≠ f.key) : (put f m).2 k = m k := by
  simp only [put]
  split
  · exact Function.update_of_ne other _ _
  · rfl

theorem lookSettled_leaves {now : Instant} {report : Feature → Reply} (other : k ≠ k') :
    (lookSettled now k' report m).2 k = m k := by
  simp only [lookSettled, look]
  split <;> exact Function.update_of_ne other _ _

end Step

end Contents

namespace Service

variable {s : Service} {now : Instant} {k : Key}

/-- A read whose key is accepted looks at the feature. -/
theorem alone_of_read {c : Command} (read : c.IsRead) (valid : c.key.validate = .ok ()) :
    s.alone now c = .lookSettled now c.key c.report := by
  have looks : ∀ (k : Key) (step : Contents.Step), k.validate = .ok () →
      Contents.Step.checked k.validate (fun _ => step) = step := by
    intro k step valid
    rw [valid]
    rfl
  cases c with
  | read k => exact looks k (.lookSettled now k (Command.read k).report) valid
  | isLocked k => exact looks k (.lookSettled now k (Command.isLocked k).report) valid
  | lockReasons k => exact looks k (.lookSettled now k (Command.lockReasons k).report) valid
  | _ => exact read.elim

/-- A command whose key is not accepted is refused. -/
theorem alone_of_refused {c : Command} {why : Complaint} (refused : c.key.validate = .error why) :
    s.alone now c = .refuse why := by
  have lock : ∀ k d codes, Key.validate k = .error why →
      Contents.Step.checked (s.lockedAt now k d codes) .put = .refuse why := by
    intro k d codes refused
    refine Contents.Step.checked_of_error ?_
    rw [lockedAt, refused]
    rfl
  cases c with
  | lock k d codes =>
    simp only [alone, effect]
    exact lock k d codes refused
  | lockForDefault k codes =>
    simp only [alone, effect]
    exact lock k _ codes refused
  | _ =>
    simp only [alone, effect]
    exact Contents.Step.checked_of_error refused

/-- **An operation leaves the features of all other keys alone.** -/
theorem alone_of_ne (c : Command) (m : Contents) (other : k ≠ c.key) :
    (s.alone now c m).2 k = m k := by
  have lock : ∀ k' d codes, k ≠ k' →
      (Contents.Step.checked (s.lockedAt now k' d codes) .put m).2 k = m k := by
    intro k' d codes other
    refine Contents.Step.checked_leaves fun f ok => Contents.Step.put_leaves ?_
    obtain ⟨reasons, t, -, -, rfl⟩ := lockedAt_ok ok
    exact other
  cases c with
  | add k' =>
    simp only [alone, effect]
    exact Contents.Step.checked_leaves fun _ _ => Contents.Step.create_leaves other
  | lock k' d codes =>
    simp only [alone, effect]
    exact lock k' d codes other
  | lockForDefault k' codes =>
    simp only [alone, effect]
    exact lock k' _ codes other
  | unlock k' =>
    simp only [alone, effect]
    exact Contents.Step.checked_leaves fun _ _ => Contents.Step.put_leaves other
  | delete k' =>
    simp only [alone, effect]
    exact Contents.Step.checked_leaves fun _ _ => Function.update_of_ne other _ _
  | _ k' =>
    simp only [alone]
    exact Contents.Step.checked_leaves fun _ _ => Contents.Step.lookSettled_leaves other

end Service

/-! ### Sessions -/

namespace Session

/-- **The steps that leave a feature to its readers**: reads, operations on other keys and moves of
the clock. -/
def Step.Spares (k : Key) : Step → Prop
  | .command c => c.key = k → c.IsRead
  | .setClock _ => True
  | .advance _ => True
  | .defaultDuration => True
  | .hook _ _ => False
  | .store _ => False

/-- **The instants at which a feature is read**, in a session that begins at an instant. -/
def readTimes (k : Key) : Instant → List Step → List Instant
  | _, [] => []
  | now, .command c :: steps =>
    if c.key = k then now :: readTimes k now steps else readTimes k now steps
  | _, .setClock t :: steps => readTimes k t steps
  | now, .advance d :: steps => readTimes k (now.advance d) steps
  | now, .defaultDuration :: steps => readTimes k now steps
  | now, .hook _ _ :: steps => readTimes k now steps
  | now, .store _ :: steps => readTimes k now steps

/-- A session without hooks, whose store was changed by calls only, and shows a feature. -/
structure Shows (b : Backend) (k : Key) (f : Feature) (s : Session) : Prop where
  plain : s.IsPlain b
  found : s.store.contents k = some f

namespace Shows

variable {b : Backend} {k : Key} {f : Feature} {s : Session} {step : Step} {steps : List Step}

theorem key (h : Shows b k f s) : f.key = k :=
  h.plain.kept.key_of_contents h.found

/-- A direct search finds the feature. -/
theorem answer_find (h : Shows b k f s) : (s.store.answer (.find k)).1 = .ok (some f) := by
  rw [(h.plain.kept.answer (.find k)).1]
  exact congrArg Except.ok h.found

/-- A read reports the feature, once its lock is taken off if it is expired. -/
theorem read (h : Shows b k f s) {c : Command} (key : c.key = k) (looks : c.IsRead)
    (valid : k.validate = .ok ()) :
    (s.perform (.command c)).1.result? = some (.ok (c.report (f.latched [s.now]))) ∧
      Shows b k (f.latched [s.now]) (s.perform (.command c)).2 ∧
      (s.perform (.command c)).2.now = s.now := by
  subst key
  obtain ⟨result, ledger, plain, -⟩ := h.plain.perform_command c
  rw [Service.alone_of_read looks valid] at result ledger
  obtain ⟨reports, row⟩ := Contents.lookSettled_of_some h.found h.key s.now c.report
  refine ⟨result.trans (congrArg some reports), ⟨plain, ?_⟩, congrArg Ledger.now ledger⟩
  exact (congrFun (congrArg Ledger.rows ledger) c.key).trans row

/-- A read of a key that is not accepted is refused. -/
theorem refuse (h : Shows b k f s) {c : Command} {why : Complaint} (key : c.key = k)
    (refused : k.validate = .error why) :
    (s.perform (.command c)).1.result? = some (.error (.illegalArgument why)) ∧
      Shows b k f (s.perform (.command c)).2 ∧ (s.perform (.command c)).2.now = s.now := by
  subst key
  obtain ⟨result, ledger, plain, -⟩ := h.plain.perform_command c
  rw [Service.alone_of_refused refused] at result ledger
  refine ⟨result, ⟨plain, ?_⟩, congrArg Ledger.now ledger⟩
  exact (congrFun (congrArg Ledger.rows ledger) c.key).trans h.found

/-- Steps that are no reads of the feature leave it as it is. -/
theorem wait (h : Shows b k f s) (spares : step.Spares k)
    (other : ∀ c, step = .command c → c.key ≠ k) :
    Shows b k f (s.perform step).2 ∧
      ∀ steps, readTimes k s.now (step :: steps) = readTimes k (s.perform step).2.now steps := by
  cases step with
  | command c =>
    have ne := other c rfl
    obtain ⟨-, ledger, plain, -⟩ := h.plain.perform_command c
    have row : (s.perform (.command c)).2.store.contents k = some f := by
      refine (congrFun (congrArg Ledger.rows ledger) k).trans ?_
      exact (Service.alone_of_ne c _ ne.symm).trans h.found
    have now : (s.perform (.command c)).2.now = s.now := congrArg Ledger.now ledger
    refine ⟨⟨plain, row⟩, fun steps => ?_⟩
    rw [readTimes, if_neg ne, now]
  | setClock t => exact ⟨⟨⟨h.plain.kept, h.plain.quiet⟩, h.found⟩, fun _ => rfl⟩
  | advance d => exact ⟨⟨⟨h.plain.kept, h.plain.quiet⟩, h.found⟩, fun _ => rfl⟩
  | defaultDuration => exact ⟨h, fun _ => rfl⟩
  | hook kind hook => exact spares.elim
  | store step => exact spares.elim

end Shows

/-- **How a feature is read**: what it is after it was read at some instants, and what a read
answers that leaves it so. -/
structure Reading (b : Backend) (k : Key) (leaves : Feature → List Instant → Feature)
    (answers : Command → Feature → Except Failure Reply) : Prop where
  unread : ∀ f, leaves f [] = f
  append : ∀ f earlier later, leaves f (earlier ++ later) = leaves (leaves f earlier) later
  read : ∀ {f : Feature} {s : Session} {c : Command}, Shows b k f s → c.key = k → c.IsRead →
    (s.perform (.command c)).1.result? = some (answers c (leaves f [s.now])) ∧
      Shows b k (leaves f [s.now]) (s.perform (.command c)).2 ∧
      (s.perform (.command c)).2.now = s.now

namespace Reading

variable {b : Backend} {k : Key} {leaves : Feature → List Instant → Feature}
  {answers : Command → Feature → Except Failure Reply}

/-- **A lock is latched open** where the key is accepted. -/
theorem latched (b : Backend) (valid : k.validate = .ok ()) :
    Reading b k Feature.latched fun c f => .ok (c.report f) where
  unread := fun _ => rfl
  append := Feature.latched_append
  read := fun h key looks => h.read key looks valid

/-- Where the key is refused nothing changes. -/
theorem refused (b : Backend) {why : Complaint} (refused : k.validate = .error why) :
    Reading b k (fun f _ => f) fun _ _ => .error (.illegalArgument why) where
  unread := fun _ => rfl
  append := fun _ _ _ => rfl
  read := fun h key _ => h.refuse key refused

/-- **A run leaves a feature as its reads leave it**, and each of them answers by what it and those
before it have left. -/
theorem run (reading : Reading b k leaves answers) {f : Feature} {s : Session} (h : Shows b k f s)
    {steps : List Step} (spares : ∀ step ∈ steps, step.Spares k) :
    Shows b k (leaves f (readTimes k s.now steps)) (s.onward steps) ∧
      ∀ (n : Nat) (c : Command), steps[n]? = some (.command c) → c.key = k →
        (s.play steps)[n]?.bind Answer.result? =
          some (answers c (leaves f (readTimes k s.now (steps.take (n + 1))))) := by
  -- a step may leave another feature and another time
  induction steps generalizing s f with
  | nil =>
    refine ⟨?_, fun n c here => nomatch here⟩
    rw [readTimes, reading.unread]
    exact h
  | cons step steps ih =>
    have now := spares step List.mem_cons_self
    have rest := fun later mem => spares later (List.mem_cons_of_mem step mem)
    by_cases own : ∃ c, step = .command c ∧ c.key = k
    · obtain ⟨c, rfl, key⟩ := own
      obtain ⟨result, shows', same⟩ := reading.read h key (now key)
      obtain ⟨after, reports⟩ := ih shows' rest
      have times : ∀ steps, readTimes k s.now (.command c :: steps) =
          [s.now] ++ readTimes k (s.perform (.command c)).2.now steps := by
        intro steps
        rw [readTimes, if_pos key, same]
        rfl
      refine ⟨?_, fun n c' here key' => ?_⟩
      · rw [times, reading.append]
        exact after
      · rw [List.take_succ_cons, times, reading.append]
        cases n with
        | zero =>
          cases here
          rw [List.take_zero, readTimes, reading.unread]
          exact result
        | succ n => exact reports n c' here key'
    · have other : ∀ c, step = .command c → c.key ≠ k := fun c here key => own ⟨c, here, key⟩
      obtain ⟨shows', times⟩ := h.wait now other
      obtain ⟨after, reports⟩ := ih shows' rest
      refine ⟨?_, fun n c' here key' => ?_⟩
      · rw [times]
        exact after
      · rw [List.take_succ_cons, times]
        cases n with
        | zero => exact absurd key' (other c' (Option.some.inj here))
        | succ n => exact reports n c' here key'

end Reading

end Session

/-- **A deadline is exact, and passed for good.**  A feature is stored with a lock, in either kind
of store, and then only read, while there are any operations on other keys and the clock is set
forward and back.

- A read reports the lock as it was stored when all reads so far, itself included, came no later
  than the deadline; else it reports the fresh feature.  So does a direct search that follows.
- A lock without a deadline is reported by every read.
- A key that is not accepted is not read at all, and keeps its row. -/
theorem deadline_is_exact_and_latched (b : Backend) (written : List Call) (service : Service)
    (start : Instant) {k : Key} {f : Feature}
    (stored : ((b.empty.after written).answer (.find k)).1 = .ok (some f))
    (locked : f.locked = true)
    {steps : List Session.Step} (spares : ∀ step ∈ steps, step.Spares k) :
    let s := Session.start service (b.empty.after written) start
    let within : Nat → Prop := fun n =>
      ∀ t ∈ Session.readTimes k start (steps.take n), t ≤ f.unlockTime
    (k.validate = .ok () → noDeadline < f.unlockTime →
      (∀ (n : Nat) (c : Command), steps[n]? = some (.command c) → c.key = k →
        (within (n + 1) →
          (s.play steps)[n]?.bind Session.Answer.result? = some (.ok (c.report f))) ∧
        (¬ within (n + 1) →
          (s.play steps)[n]?.bind Session.Answer.result? = some (.ok (c.report (.fresh k))))) ∧
      ∀ n,
        (within n → ((s.onward (steps.take n)).store.answer (.find k)).1 = .ok (some f)) ∧
        (¬ within n →
          ((s.onward (steps.take n)).store.answer (.find k)).1 = .ok (some (.fresh k)))) ∧
    (k.validate = .ok () → f.unlockTime = noDeadline →
      ∀ (n : Nat) (c : Command), steps[n]? = some (.command c) → c.key = k →
        (s.play steps)[n]?.bind Session.Answer.result? = some (.ok (c.report f))) ∧
    ∀ why, k.validate = .error why →
      (∀ (n : Nat) (c : Command), steps[n]? = some (.command c) → c.key = k →
        (s.play steps)[n]?.bind Session.Answer.result? = some (.error (.illegalArgument why))) ∧
      ∀ n, ((s.onward (steps.take n)).store.answer (.find k)).1 = .ok (some f) := by
  intro s within
  have kept := (Store.isKept_empty b).after written
  have found : (b.empty.after written).contents k = some f := by
    simp only [Store.contents, stored]
  have shows' : Session.Shows b k f s := ⟨Session.isPlain_start service kept start, found⟩
  have early : ∀ n, ∀ step ∈ steps.take n, step.Spares k :=
    fun n step mem => spares step (List.mem_of_mem_take mem)
  have timely : ∀ n, within n → f.latched (Session.readTimes k s.now (steps.take n)) = f :=
    fun n within => Feature.latched_of_within within
  have late : noDeadline < f.unlockTime → ∀ n, ¬ within n →
      f.latched (Session.readTimes k s.now (steps.take n)) = .fresh k := by
    intro deadline n past
    exact (Feature.latched_of_past locked deadline past).trans (congrArg Feature.fresh shows'.key)
  refine ⟨fun valid deadline => ⟨fun n c here key => ?_, fun n => ?_⟩, ?_, ?_⟩
  · have reports := ((Session.Reading.latched b valid).run shows' spares).2 n c here key
    refine ⟨fun inTime => ?_, fun past => ?_⟩
    · rw [reports, timely _ inTime]
    · rw [reports, late deadline _ past]
  · have shown := ((Session.Reading.latched b valid).run shows' (early n)).1.answer_find
    refine ⟨fun inTime => ?_, fun past => ?_⟩
    · rw [shown, timely n inTime]
    · rw [shown, late deadline n past]
  · intro valid indefinite n c here key
    have reports := ((Session.Reading.latched b valid).run shows' spares).2 n c here key
    rw [reports, Feature.latched_of_noDeadline indefinite]
  · intro why refused
    have reading := Session.Reading.refused b refused
    exact ⟨(reading.run shows' spares).2, fun n => (reading.run shows' (early n)).1.answer_find⟩

/-- A feature is read, then its deadline passes and it is read again, and once more when the clock
was set back; another feature is added in between. -/
def Session.forthAndBack : List Session.Step :=
  [.command (.read ⟨1, "alice", "api"⟩), .setClock 11, .command (.isLocked ⟨1, "alice", "api"⟩),
    .command (.add ⟨1, "bob", "api"⟩), .setClock 5, .command (.lockReasons ⟨1, "alice", "api"⟩)]

/-- The lock is reported before its deadline only; afterwards it is gone, whatever the clock
shows. -/
theorem forthAndBack_latches :
    let s := Session.start ⟨.empty, standardDuration⟩ ((Backend.database .changed).empty.after
      [.insert ⟨⟨1, "alice", "api"⟩, true, 10, ["fraud"], ["fraud"]⟩]) 5
    (s.play Session.forthAndBack)[0]?.bind Session.Answer.result? =
        some (.ok (.feature ⟨⟨1, "alice", "api"⟩, true, 10, ["fraud"], ["fraud"]⟩)) ∧
      (s.play Session.forthAndBack)[2]?.bind Session.Answer.result? = some (.ok (.flag false)) ∧
      (s.play Session.forthAndBack)[5]?.bind Session.Answer.result? =
        some (.ok (.reasons ⟨[], []⟩)) := by
  intro s
  have stored : (((Backend.database .changed).empty.after
      [.insert ⟨⟨1, "alice", "api"⟩, true, 10, ["fraud"], ["fraud"]⟩]).answer
        (.find ⟨1, "alice", "api"⟩)).1 =
      .ok (some ⟨⟨1, "alice", "api"⟩, true, 10, ["fraud"], ["fraud"]⟩) := rfl
  have spares : ∀ step ∈ Session.forthAndBack, step.Spares ⟨1, "alice", "api"⟩ := by
    simp [Session.forthAndBack, Session.Step.Spares, Command.IsRead, Command.key]
  obtain ⟨reports, -⟩ := (deadline_is_exact_and_latched (.database .changed) _
    ⟨.empty, standardDuration⟩ 5 stored rfl spares).1 rfl (by decide)
  refine ⟨(reports 0 _ rfl rfl).1 ?_, (reports 2 _ rfl rfl).2 ?_, (reports 5 _ rfl rfl).2 ?_⟩
  all_goals simp [Session.readTimes, Session.forthAndBack, Command.key]

end FeatureLock
