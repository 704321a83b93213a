import FeatureLock.Proofs.Lock.Specification
import FeatureLock.Proofs.Session.Ledger

/-!
# The stages of an operation

Between two of its questions an operation stands at one of nine points.  This
module lists them, says what the operation still has to ask at each of them, and
how one answer takes it from one to the next.

## Main Definitions

- `Stage`: the points at which an operation can stand
- `Stage.program`: what is left of the operation there
- `Stage.first`, `Stage.Opens`: where the operation of a command begins, and
  where an operation can begin at all
- `Stage.turn`: the next point, and the rows after the answer
- `Stage.step`: the step on the map that is left to be made
- `Stage.left`: the questions that are left, at most

Main statements: `Service.perform_eq_program`, every operation begins at its
first stage; `Stage.program_turn`, one answer of a ledger makes one turn; and
`Stage.step_first`, the step that is left at the first stage is the whole effect
of the command.

## Design Notes

Stages say nothing about who else uses the store.  An operation that runs alone
makes its turns one after the other; operations that run side by side make them
in any order.  Both kinds of runs are taken apart by the same statements.
-/

namespace FeatureLock

/-- Where an operation stands between two of its questions. -/
inductive Stage where
  /-- it is about to add the fresh feature -/
  | adding
  /-- it is about to search for the feature -/
  | searching
  /-- it found a feature and is about to read the clock -/
  | judging (f : Feature)
  /-- it found a lock that was expired when it read the clock, and is about to take it off -/
  | releasing (f : Feature) (now : Instant)
  /-- somebody else changed the feature, and it is about to search once more -/
  | searchingAgain
  /-- it is about to read the clock for a deadline -/
  | timing (d : Duration) (reasons : LockReasons)
  /-- it is about to replace the feature -/
  | replacing (f : Feature)
  /-- it is about to delete the feature -/
  | deleting
  /-- it has its result -/
  | finished (result : Except Failure Reply)

namespace Stage

/-! ### What is left to ask -/

/-- The end of a search: a report on the feature, which has to be there. -/
def reportOn (c : Command) : Except Failure (Option Feature) → Operation Reply
  | .ok (some f) => .done (.ok (c.report f))
  | .ok none => .done (.error (.notFound c.key))
  | .error e => .done (.error e)

/-- The second search of a read. -/
def searchAgain (c : Command) : Operation Reply :=
  .ask (.call (.find c.key)) (reportOn c)

/-- The conditional release of a read. -/
def release (c : Command) (f : Feature) (now : Instant) : Operation Reply :=
  .ask (.call (.expire c.key now)) fun
    | .ok (true : Bool) => .done (.ok (c.report f.unlocked))
    | .ok (false : Bool) => searchAgain c
    | .error e => .done (.error e)

/-- A read from its clock reading on. -/
def judge (c : Command) (f : Feature) : Operation Reply :=
  .ask .clock fun now =>
    if f.isExpiredAt now then release c f now else .done (.ok (c.report f))

/-- A read from its search on. -/
def search (c : Command) : Operation Reply :=
  .ask (.call (.find c.key)) fun
    | .ok (some f : Option Feature) => judge c f
    | .ok (none : Option Feature) => .done (.error (.notFound c.key))
    | .error e => .done (.error e)

/-- A replacement of the feature, which has to be there. -/
def replace (f : Feature) : Operation Reply :=
  .ask (.call (.update f)) fun
    | .ok (true : Bool) => .done (.ok (.feature f))
    | .ok (false : Bool) => .done (.error (.notFound f.key))
    | .error e => .done (.error e)

/-- The locked feature of a key. -/
def lockedFeature (k : Key) (reasons : LockReasons) (unlockTime : Instant) : Feature :=
  ⟨k, true, unlockTime, reasons.codes, reasons.reasons⟩

/-- A lock from its clock reading on. -/
def time (c : Command) (d : Duration) (reasons : LockReasons) : Operation Reply :=
  .ask .clock fun now =>
    match now.after? d with
    | some t => replace (lockedFeature c.key reasons t)
    | none => .done (.error (.illegalArgument (.durationOutOfRange d)))

/-- What is left of an operation at a stage. -/
def program (c : Command) : Stage → Operation Reply
  | adding => .ask (.call (.insert (.fresh c.key))) fun
    | .ok _ => .done (.ok (.feature (.fresh c.key)))
    | .error e => .done (.error e)
  | searching => search c
  | judging f => judge c f
  | releasing f now => release c f now
  | searchingAgain => searchAgain c
  | timing d reasons => time c d reasons
  | replacing f => replace f
  | deleting => .ask (.call (.delete c.key)) fun
    | .ok _ => .done (.ok .deleted)
    | .error e => .done (.error e)
  | finished result => .done result

/-- The question that an operation asks next. -/
def question (c : Command) : Stage → Option Ask
  | adding => some (.call (.insert (.fresh c.key)))
  | searching => some (.call (.find c.key))
  | judging _ => some .clock
  | releasing _ now => some (.call (.expire c.key now))
  | searchingAgain => some (.call (.find c.key))
  | timing _ _ => some .clock
  | replacing f => some (.call (.update f))
  | deleting => some (.call (.delete c.key))
  | finished _ => none

theorem exists_program_eq_ask_iff {c : Command} {st : Stage} {q : Ask} :
    (∃ next, st.program c = .ask q next) ↔ st.question c = some q := by
  constructor
  · rintro ⟨next, asks⟩
    cases st <;> cases asks <;> rfl
  · intro asks
    cases st <;> cases asks <;> exact ⟨_, rfl⟩

theorem eq_finished_of_program {c : Command} {st : Stage} {result : Except Failure Reply}
    (done : st.program c = .done result) : st = .finished result := by
  cases st <;> cases done
  rfl

/-! ### Where an operation begins -/

/-- A refused argument. -/
def refused (why : Complaint) : Stage :=
  .finished (.error (.illegalArgument why))

/-- The stage that a check of the arguments leads to. -/
def checked {α : Type} (check : Except Complaint α) (stage : α → Stage) : Stage :=
  match check with
  | .ok a => stage a
  | .error why => refused why

/-- Where a lock begins once its codes are resolved. -/
def lockFirst (k : Key) (d : Option Duration) (reasons : LockReasons) : Stage :=
  match d with
  | none => .replacing (lockedFeature k reasons noDeadline)
  | some d =>
    if d.millis = 0 then refused .durationTooShort
    else if Instant.maxMillis < d.millis then refused (.durationOutOfRange d)
    else .timing d reasons

/-- **Where the operation of a command begins.** -/
def first (s : Service) : Command → Stage
  | .add k => checked k.validate fun _ => .adding
  | .lock k d codes =>
    checked k.validate fun _ => checked (s.catalog.resolve codes) (lockFirst k d)
  | .lockForDefault k codes =>
    checked k.validate fun _ =>
      checked (s.catalog.resolve codes) (lockFirst k (some s.defaultDuration))
  | .unlock k => checked k.validate fun _ => .replacing (.fresh k)
  | .delete k => checked k.validate fun _ => .deleting
  | c => checked c.key.validate fun _ => .searching

/-- The stages at which an operation can begin. -/
inductive Opens (c : Command) : Stage → Prop where
  | adding (timeless : c.IsTimeless) : Opens c .adding
  | searching (read : c.IsRead) : Opens c .searching
  | timing (d : Duration) (reasons : LockReasons) : Opens c (.timing d reasons)
  | replacing (timeless : c.IsTimeless) (f : Feature) : Opens c (.replacing f)
  | deleting (timeless : c.IsTimeless) : Opens c .deleting
  | refused (why : Complaint) : Opens c (refused why)

theorem opens_checked {α : Type} {c : Command} {check : Except Complaint α} {stage : α → Stage}
    (opens : ∀ a, (stage a).Opens c) : (checked check stage).Opens c := by
  cases check with
  | ok a => exact opens a
  | error why => exact .refused why

theorem opens_lockFirst {c : Command} (k : Key) {d : Option Duration}
    (indefinite : d = none → c.IsTimeless) (reasons : LockReasons) :
    (lockFirst k d reasons).Opens c := by
  unfold lockFirst
  split
  · exact .replacing (indefinite rfl) _
  · split
    · exact .refused _
    · split
      · exact .refused _
      · exact .timing _ reasons

theorem opens_first (s : Service) (c : Command) : (first s c).Opens c := by
  unfold first
  cases c with
  | add k => exact opens_checked fun _ => .adding ⟨id, id⟩
  | lock k d codes =>
    refine opens_checked fun _ => opens_checked (opens_lockFirst k ?_)
    rintro rfl
    exact ⟨id, nofun⟩
  | lockForDefault k codes => exact opens_checked fun _ => opens_checked (opens_lockFirst k nofun)
  | unlock k => exact opens_checked fun _ => .replacing ⟨id, id⟩ _
  | delete k => exact opens_checked fun _ => .deleting ⟨id, id⟩
  | _ => exact opens_checked fun _ => .searching trivial

/-! ### One answer -/

/-- A step on the map that ends an operation. -/
def ending (step : Contents.Step) (m : Contents) : Stage × Contents :=
  (.finished (step m).1, (step m).2)

/-- **The turn that one answer makes**: the next stage, and the rows afterwards. -/
def turn (c : Command) (l : Ledger) : Stage → Stage × Contents
  | adding => ending (.create c.key) l.rows
  | searching =>
    match l.rows c.key with
    | some f => (judging f, l.rows)
    | none => (finished (.error (.notFound c.key)), l.rows)
  | judging f =>
    (if f.isExpiredAt l.now then releasing f l.now else finished (.ok (c.report f)), l.rows)
  | releasing f now =>
    match l.rows c.key with
    | some g =>
      if g.isExpiredAt now then
        (finished (.ok (c.report f.unlocked)), Function.update l.rows c.key (some (.fresh c.key)))
      else (searchingAgain, l.rows)
    | none => (searchingAgain, l.rows)
  | searchingAgain => ending (.look c.key c.report) l.rows
  | timing d reasons =>
    (match l.now.after? d with
      | some t => replacing (lockedFeature c.key reasons t)
      | none => refused (.durationOutOfRange d), l.rows)
  | replacing f => ending (.put f) l.rows
  | deleting => ending (.remove c.key) l.rows
  | finished result => (finished result, l.rows)

/-- A release is left to be made where one was judged necessary. -/
theorem eq_judging_of_turn {c : Command} {st : Stage} {l : Ledger} {f : Feature} {t : Instant}
    (releases : (st.turn c l).1 = .releasing f t) : st = .judging f ∧ t = l.now := by
  cases st with
  | judging g =>
    simp only [turn] at releases
    split at releases
    · cases releases
      exact ⟨rfl, rfl⟩
    · cases releases
  | searching =>
    simp only [turn] at releases
    split at releases <;> cases releases
  | releasing g now =>
    simp only [turn] at releases
    split at releases
    · split at releases <;> cases releases
    · cases releases
  | timing d reasons =>
    simp only [turn] at releases
    split at releases <;> cases releases
  | _ => cases releases

/-- **One answer of a ledger makes one turn**, and leaves the time as it is. -/
theorem program_turn {c : Command} {st : Stage} {q : Ask} {next : q.Answer → Operation Reply}
    (asks : st.program c = .ask q next) (l : Ledger) :
    next (l.answer q).1 = (st.turn c l).1.program c ∧
      (l.answer q).2 = ⟨(st.turn c l).2, l.now⟩ := by
  cases st with
  | adding =>
    cases asks
    simp only [turn, ending, Ledger.answer, Contents.answer, Contents.Step.create, Feature.fresh]
    cases l.rows c.key <;> exact ⟨rfl, rfl⟩
  | searching =>
    cases asks
    simp only [turn, Ledger.answer, Contents.answer]
    cases l.rows c.key <;> exact ⟨rfl, rfl⟩
  | judging f =>
    cases asks
    by_cases expired : f.isExpiredAt l.now = true
    · simp only [turn, Ledger.answer, expired, if_true, and_true]
      rfl
    · simp only [turn, Ledger.answer, expired, and_true]
      rfl
  | releasing f now =>
    cases asks
    simp only [turn, Ledger.answer, Contents.answer]
    cases l.rows c.key with
    | some g =>
      dsimp only
      cases g.isExpiredAt now <;> exact ⟨rfl, rfl⟩
    | none => exact ⟨rfl, rfl⟩
  | searchingAgain =>
    cases asks
    simp only [turn, ending, Ledger.answer, Contents.answer, Contents.Step.look]
    cases l.rows c.key <;> exact ⟨rfl, rfl⟩
  | timing d reasons =>
    cases asks
    simp only [turn, Ledger.answer, and_true]
    cases l.now.after? d <;> rfl
  | replacing f =>
    cases asks
    simp only [turn, ending, Ledger.answer, Contents.answer, Contents.Step.put]
    cases l.rows f.key <;> exact ⟨rfl, rfl⟩
  | deleting =>
    cases asks
    exact ⟨rfl, rfl⟩
  | finished result => cases asks

/-- Only the last call of an operation changes the rows. -/
theorem finished_of_turn_rows_ne {c : Command} {st : Stage} {l : Ledger}
    (changed : (st.turn c l).2 ≠ l.rows) :
    (∃ call, st.question c = some (.call call)) ∧ ∃ result, (st.turn c l).1 = .finished result := by
  cases st with
  | searching =>
    simp only [turn] at changed
    split at changed <;> exact absurd rfl changed
  | releasing f now =>
    refine ⟨⟨_, rfl⟩, ?_⟩
    simp only [turn] at changed ⊢
    split at changed
    · split at changed
      · next expired => exact ⟨_, by rw [if_pos expired]⟩
      · exact absurd rfl changed
    · exact absurd rfl changed
  | judging f => exact absurd rfl changed
  | timing d reasons => exact absurd rfl changed
  | finished result => exact absurd rfl changed
  | _ => exact ⟨⟨_, rfl⟩, _, rfl⟩

/-- The questions that an operation has left, at most. -/
def left : Stage → Nat
  | searching => 4
  | judging _ => 3
  | releasing _ _ => 2
  | timing _ _ => 2
  | finished _ => 0
  | _ => 1

theorem left_le (st : Stage) : st.left ≤ 4 := by
  cases st <;> simp only [left] <;> omega

/-- Every turn takes at least one of the questions that are left. -/
theorem left_turn_le (c : Command) (st : Stage) (l : Ledger) :
    (st.turn c l).1.left ≤ st.left - 1 := by
  cases st with
  | searching =>
    simp only [turn]
    split <;> simp [left]
  | judging f =>
    simp only [turn]
    split <;> simp [left]
  | releasing f now =>
    simp only [turn]
    split
    · split <;> simp [left]
    · simp [left]
  | timing d reasons =>
    simp only [turn]
    split <;> simp [left, refused]
  | _ => exact Nat.le_refl _

/-! ### What is left to do -/

/-- **The step on the map that is left to be made at a stage**, when the clock reads an instant. -/
def step (c : Command) (now : Instant) : Stage → Contents.Step
  | adding => .create c.key
  | timing d reasons =>
    match now.after? d with
    | some t => .put (lockedFeature c.key reasons t)
    | none => .refuse (.durationOutOfRange d)
  | replacing f => .put f
  | deleting => .remove c.key
  | finished result => fun m => (result, m)
  | _ => .look c.key c.report

theorem step_lockFirst (c : Command) (now : Instant) (d : Option Duration)
    (reasons : LockReasons) :
    (lockFirst c.key d reasons).step c now =
      .checked (now.deadline d) fun t => .put (lockedFeature c.key reasons t) := by
  cases d with
  | none => rfl
  | some d =>
    simp only [lockFirst, Instant.deadline]
    split
    · rfl
    · split
      · rfl
      · simp only [step]
        cases now.after? d <;> rfl

/-- **The step that is left at the first stage is the step of the command.** -/
theorem step_first (s : Service) (c : Command) (now : Instant) :
    (first s c).step c now = s.effect now c := by
  -- a lock makes three checks before it has a feature to put in place
  have lock : ∀ (k : Key) (d : Option Duration) (codes : List String), c.key = k →
      (checked k.validate fun _ => checked (s.catalog.resolve codes) (lockFirst k d)).step c now =
        .checked (s.lockedAt now k d codes) .put := by
    rintro k d codes rfl
    unfold Service.lockedAt
    cases c.key.validate with
    | error why => rfl
    | ok _ =>
      cases s.catalog.resolve codes with
      | error why => rfl
      | ok reasons =>
        refine (step_lockFirst c now d reasons).trans ?_
        cases now.deadline d <;> rfl
  cases c with
  | lock k d codes =>
    simp only [first, Service.effect]
    exact lock k d codes rfl
  | lockForDefault k codes =>
    simp only [first, Service.effect]
    exact lock k (some s.defaultDuration) codes rfl
  | _ k =>
    simp only [first, Service.effect, Command.key]
    cases k.validate <;> rfl

end Stage

/-! ### Operations in stages -/

namespace Operation

theorem call_bind {α : Type} (c : Call) (f : c.Answer → Operation α) :
    call c >>= f = Program.ask (.call c) fun
      | .ok a => f a
      | .error e => .done (.error e) := by
  refine congrArg (Program.ask (A := Ask.Answer) _) (funext fun a => ?_)
  rcases a with e | a <;> rfl

theorem now_bind {α : Type} (f : Instant → Operation α) : now >>= f = Program.ask .clock f := rfl

theorem findExisting_report (c : Command) :
    (findExisting c.key >>= fun f => pure (c.report f)) = Stage.searchAgain c := by
  rw [findExisting, bind_assoc, call_bind]
  refine congrArg (Program.ask (A := Ask.Answer) _) (funext fun a => ?_)
  rcases a with e | _ | f <;> rfl

theorem replaceExisting_report (f : Feature) :
    (replaceExisting f >>= fun f => pure (.feature f)) = Stage.replace f := by
  refine congrArg (Program.ask (A := Ask.Answer) (Ask.call (.update f))) (funext fun a => ?_)
  rcases a with e | _ | _ <;> rfl

end Operation

namespace Service

open Operation

/-- A read is a search, a clock reading, a conditional release and another search. -/
theorem reconcile_report (c : Command) :
    (reconcile c.key >>= fun f => pure (c.report f)) = Stage.search c := by
  rw [reconcile, findExisting, bind_assoc, bind_assoc, call_bind]
  refine congrArg (Program.ask (A := Ask.Answer) _) (funext fun a => ?_)
  rcases a with e | _ | f
  · rfl
  · rfl
  · dsimp only
    rw [pure_bind, bind_assoc, now_bind]
    refine congrArg (Program.ask (A := Ask.Answer) _) (funext fun now => ?_)
    cases f.isExpiredAt now
    · rfl
    · refine congrArg (Program.ask (A := Ask.Answer) (Ask.call (.expire c.key now)))
        (funext fun a => ?_)
      rcases a with e | _ | _
      · rfl
      · exact findExisting_report c
      · rfl

/-- A lock is a clock reading, if it has a duration, and a replacement. -/
theorem lock_report (c : Command) (d : Option Duration) (reasons : LockReasons) :
    (deadline d >>= fun t =>
        replaceExisting (Stage.lockedFeature c.key reasons t) >>= fun f => pure (.feature f)) =
      (Stage.lockFirst c.key d reasons).program c := by
  cases d with
  | none => exact replaceExisting_report _
  | some d =>
    simp only [deadline, deadlineAfter, Stage.lockFirst, replaceExisting_report]
    split
    · rfl
    · split
      · rfl
      · rw [bind_assoc, now_bind]
        refine congrArg (Program.ask (A := Ask.Answer) _) (funext fun now => ?_)
        cases now.after? d <;> rfl

/-- **Every operation begins at the first stage of its command.** -/
theorem perform_eq_program (s : Service) (c : Command) :
    s.perform c = (Stage.first s c).program c := by
  -- the default duration is a duration like any other
  have locking : ∀ (k : Key) (d : Option Duration) (codes : List String), c.key = k →
      (s.lock k d codes >>= fun f => pure (.feature f)) =
        (Stage.checked k.validate fun _ =>
          Stage.checked (s.catalog.resolve codes) (Stage.lockFirst k d)).program c := by
    rintro k d codes rfl
    simp only [lock, bind_assoc]
    cases c.key.validate with
    | error why => rfl
    | ok _ =>
      cases s.catalog.resolve codes with
      | error why => rfl
      | ok reasons => exact lock_report c d reasons
  have reading : ∀ k, c.key = k →
      (read k >>= fun f => pure (c.report f)) =
        (Stage.checked k.validate fun _ => .searching).program c := by
    rintro k rfl
    simp only [read, bind_assoc]
    cases c.key.validate with
    | error why => rfl
    | ok _ => exact reconcile_report c
  cases c with
  | add k =>
    simp only [perform, add, bind_assoc, Stage.first]
    cases k.validate with
    | error why => rfl
    | ok _ =>
      refine congrArg (Program.ask (A := Ask.Answer) _) (funext fun a => ?_)
      rcases a with e | _ <;> rfl
  | read k =>
    simp only [perform, Stage.first, Command.key]
    exact reading k rfl
  | isLocked k =>
    simp only [perform, isLocked, bind_assoc, pure_bind, Stage.first, Command.key]
    exact reading k rfl
  | lockReasons k =>
    simp only [perform, lockReasons, bind_assoc, pure_bind, Stage.first, Command.key]
    exact reading k rfl
  | lock k d codes =>
    simp only [perform, Stage.first]
    exact locking k d codes rfl
  | lockForDefault k codes =>
    simp only [perform, lockForDefault, Stage.first]
    exact locking k (some s.defaultDuration) codes rfl
  | unlock k =>
    simp only [perform, unlock, bind_assoc, Stage.first]
    cases k.validate with
    | error why => rfl
    | ok _ => exact replaceExisting_report (.fresh k)
  | delete k =>
    simp only [perform, delete, bind_assoc, Stage.first]
    cases k.validate with
    | error why => rfl
    | ok _ =>
      refine congrArg (Program.ask (A := Ask.Answer) _) (funext fun a => ?_)
      rcases a with e | _ <;> rfl

/-! ### Answered by one state -/

section

variable {σ : Type} {answer : (q : Ask) → σ → q.Answer × σ} {x : σ}

/-- **A lock is refused at once, or its feature is put in place**, whatever the state that
answers. -/
theorem run_lock {now : Instant} (clock : answer .clock x = (now, x)) (s : Service) (k : Key)
    (d : Option Duration) (codes : List String) :
    Program.run answer (s.perform (.lock k d codes)) x =
      match s.lockedAt now k d codes with
      | .error why => (.error (.illegalArgument why), x)
      | .ok f => Program.run answer (Stage.replace f) x := by
  rw [perform_eq_program]
  simp only [Stage.first, lockedAt]
  cases k.validate with
  | error why => rfl
  | ok _ =>
    cases s.catalog.resolve codes with
    | error why => rfl
    | ok reasons =>
      cases d with
      | none => rfl
      | some d =>
        simp only [Stage.checked, Stage.lockFirst, Instant.deadline]
        -- the clock is read only for a duration that can be counted
        split
        · rfl
        · split
          · rfl
          · simp only [Stage.program, Stage.time, Program.run_ask, clock]
            cases now.after? d <;> rfl

/-- A read whose search fails comes to the same failure. -/
theorem run_read_of_error (s : Service) {c : Command} (looks : c.IsRead)
    (valid : c.key.validate = .ok ()) {e : Failure} {y : σ}
    (failed : answer (.call (.find c.key)) x = (.error e, y)) :
    Program.run answer (s.perform c) x = (.error e, y) := by
  have first : Stage.first s c = .searching := by
    cases c with
    | read k => simp only [Stage.first, valid, Stage.checked]
    | isLocked k => simp only [Stage.first, valid, Stage.checked]
    | lockReasons k => simp only [Stage.first, valid, Stage.checked]
    | _ => exact looks.elim
  rw [perform_eq_program, first]
  simp only [Stage.program, Stage.search, Program.run_ask, failed]
  rfl

end

end Service

end FeatureLock
