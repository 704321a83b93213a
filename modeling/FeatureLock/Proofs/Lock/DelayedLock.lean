import FeatureLock.Proofs.Lock.FreshLock
import FeatureLock.Proofs.Lock.Linearization

/-!
# Reads and locks that come late

A read that found an expired lock, and did not come to release it, searches once more and
reports what it finds.  It does not look at the clock again, nor compare what it finds
with the instant that it read before.  What it reports can be expired at that instant
only if the lock was delayed: it read the clock before the read did, and put its
feature in place after the release.

## Main Definitions

- `Command.IsLock`: the commands that lock
- `Workload.Timed`: what is known of a lock that stands at a stage
- `Workload.Vain`: a release that took off nothing
- `Workload.Looked`: what is known of a read that stands at a stage
- `Workload.LockedLate`: a lock that was put in place after a release

Main statements: `read_reports_by_its_clock`, and `lock_reported_after_its_deadline`, a
schedule in which a read reports a lock that has expired.
-/

namespace FeatureLock

/-- The commands that lock. -/
def Command.IsLock : Command → Prop
  | lock .. => True
  | lockForDefault .. => True
  | _ => False

namespace Stage

/-- **A row that a turn writes** is the fresh feature of its key, or what the operation was about to
put in place of its feature. -/
theorem eq_of_turn_writes {c : Command} {st : Stage} {l : Ledger} {k : Key} {f : Feature}
    (new : l.rows k ≠ some f) (wrote : (st.turn c l).2 k = some f) :
    f = .fresh k ∨ (st = .replacing f ∧ f.key = k) := by
  -- what is written under one key is found there, and all other rows are as they were
  have written : ∀ {k' : Key} {g : Option Feature}, Function.update l.rows k' g k = some f →
      k' = k ∧ g = some f := by
    intro k' g found
    by_cases same : k = k'
    · subst same
      rw [Function.update_self] at found
      exact ⟨rfl, found⟩
    · rw [Function.update_of_ne same] at found
      exact absurd found new
  cases st with
  | adding =>
    simp only [turn, ending, Contents.Step.create] at wrote
    split at wrote
    · exact absurd wrote new
    · obtain ⟨rfl, fresh⟩ := written wrote
      exact .inl (Option.some.inj fresh).symm
  | searching =>
    simp only [turn] at wrote
    split at wrote <;> exact absurd wrote new
  | judging g => exact absurd wrote new
  | releasing g t =>
    simp only [turn] at wrote
    split at wrote
    · split at wrote
      · obtain ⟨rfl, fresh⟩ := written wrote
        exact .inl (Option.some.inj fresh).symm
      · exact absurd wrote new
    · exact absurd wrote new
  | searchingAgain =>
    simp only [turn, ending, Contents.Step.look] at wrote
    split at wrote <;> exact absurd wrote new
  | timing d reasons => exact absurd wrote new
  | replacing g =>
    simp only [turn, ending, Contents.Step.put] at wrote
    split at wrote
    · obtain ⟨key, put⟩ := written wrote
      cases put
      exact .inr ⟨rfl, key⟩
    · exact absurd wrote new
  | deleting =>
    obtain ⟨-, none⟩ := written wrote
    cases none
  | finished result => exact absurd wrote new

/-- A release that finds nothing expired leads to a second search. -/
theorem turn_releasing_of_vain {c : Command} {l : Ledger} {f : Feature} {t : Instant}
    (vain : ∀ g, l.rows c.key = some g → g.isExpiredAt t = false) :
    (releasing f t).turn c l = (searchingAgain, l.rows) := by
  simp only [turn]
  split
  · next g found => rw [if_neg (Bool.eq_false_iff.mp (vain g found))]
  · rfl

/-- A release that finds an expired lock takes it off. -/
theorem turn_releasing_of_expired {c : Command} {l : Ledger} {f g : Feature} {t : Instant}
    (found : l.rows c.key = some g) (expired : g.isExpiredAt t = true) :
    (releasing f t).turn c l = (finished (.ok (c.report f.unlocked)),
      Function.update l.rows c.key (some (.fresh c.key))) := by
  simp only [turn, found, expired, if_true]

/-- **What a turn leads to**: only a lock that read the clock comes to put a feature in place, and
only a release that takes off nothing leads to a second search. -/
inductive LeadsTo (c : Command) (l : Ledger) : Stage → Stage → Prop where
  | judging (f : Feature) : LeadsTo c l .searching (.judging f)
  | releasing (f : Feature) : LeadsTo c l (.judging f) (.releasing f l.now)
  | searchingAgain (f : Feature) (t : Instant)
    (vain : ∀ g, l.rows c.key = some g → g.isExpiredAt t = false) :
    LeadsTo c l (.releasing f t) .searchingAgain
  | replacing (d : Duration) (reasons : LockReasons) (t : Instant)
      (later : l.now.after? d = some t) :
    LeadsTo c l (.timing d reasons) (.replacing (lockedFeature c.key reasons t))
  | finished (st : Stage) (result : Except Failure Reply) : LeadsTo c l st (.finished result)

theorem leadsTo_turn (c : Command) (l : Ledger) (st : Stage) : LeadsTo c l st (st.turn c l).1 := by
  cases st with
  | searching =>
    simp only [turn]
    split
    · exact .judging _
    · exact .finished _ _
  | judging f =>
    simp only [turn]
    split
    · exact .releasing f
    · exact .finished _ _
  | releasing f t =>
    by_cases vain : ∀ g, l.rows c.key = some g → g.isExpiredAt t = false
    · rw [turn_releasing_of_vain vain]
      exact .searchingAgain f t vain
    · simp only [not_forall, Bool.not_eq_false] at vain
      obtain ⟨g, found, expired⟩ := vain
      rw [turn_releasing_of_expired found expired]
      exact .finished _ _
  | timing d reasons =>
    simp only [turn]
    split
    · next t later => exact .replacing d reasons t later
    · exact .finished _ _
  | _ => exact .finished _ _

end Stage

namespace Workload

variable {ι : Type} [DecidableEq ι] {w : Workload ι} {i : ι} {n m : Nat} {k : Key} {f : Feature}

/-! ### Rows -/

/-- **Where a row comes from**: between a moment at which it was another one and a moment at which
it is there, an operation put it in place, or it is the fresh feature. -/
theorem row_comes (le : n ≤ m) (other : w.rows n k ≠ some f) (found : w.rows m k = some f)
    (used : f ≠ .fresh k) :
    ∃ l, n ≤ l ∧ l < m ∧ ∃ i, w.schedule l = .turn i ∧ w.stage i l = .replacing f ∧ f.key = k := by
  induction le with
  | refl => exact absurd found other
  | @step m le ih =>
    by_cases before : w.rows m k = some f
    · obtain ⟨l, from_n, to_m, comes⟩ := ih before
      exact ⟨l, from_n, Nat.lt_succ_of_lt to_m, comes⟩
    · cases event : w.schedule m with
      | setClock t =>
        rw [rows_of_setClock event] at found
        exact absurd found before
      | turn i =>
        rw [rows_of_turn event] at found
        obtain fresh | ⟨stands, key⟩ := Stage.eq_of_turn_writes before found
        · exact absurd fresh used
        · exact ⟨m, le, m.lt_succ_self, i, event, stands, key⟩

/-! ### Locks -/

/-- **What is known of a lock that stands at a stage**: what it is about to put in place is locked
by its command, and its deadline lay ahead when it read the clock. -/
def Timed (w : Workload ι) (i : ι) (n : Nat) : Stage → Prop
  | .timing d _ => d.millis ≠ 0 ∧ (w.command i).IsLock
  | .replacing f => f.locked = true → (w.command i).IsLock ∧
    (f.unlockTime = noDeadline ∨ ∃ l < n, w.ReadsClock i l ∧ w.now l < f.unlockTime)
  | _ => True

theorem timed_first (w : Workload ι) (i : ι) : w.Timed i 0 (w.stage i 0) := by
  have checked : ∀ {α : Type} (check : Except Complaint α) (stage : α → Stage),
      (∀ a, w.Timed i 0 (stage a)) → w.Timed i 0 (Stage.checked check stage) := by
    intro α check stage each
    cases check with
    | ok a => exact each a
    | error why => trivial
  have locking : ∀ k d reasons,
      (w.command i).IsLock → w.Timed i 0 (Stage.lockFirst k d reasons) := by
    intro k d reasons locks
    cases d with
    | none => exact fun _ => ⟨locks, .inl rfl⟩
    | some d =>
      simp only [Stage.lockFirst]
      split
      · trivial
      · next positive =>
        split
        · trivial
        · exact ⟨positive, locks⟩
  rw [stage]
  generalize given : w.command i = c
  unfold Stage.first
  cases c with
  | lock k d codes =>
    exact checked _ _ fun _ => checked _ _ fun reasons => locking k d reasons (given ▸ trivial)
  | lockForDefault k codes =>
    exact checked _ _ fun _ => checked _ _ fun reasons => locking k _ reasons (given ▸ trivial)
  | unlock k => exact checked _ _ fun _ locked => absurd locked Bool.false_ne_true
  | _ k => exact checked _ _ fun _ => trivial

theorem Timed.wait {st : Stage} (timed : w.Timed i n st) : w.Timed i (n + 1) st := by
  cases st with
  | timing d reasons => exact timed
  | replacing f =>
    intro locked
    obtain ⟨locks, indefinite | ⟨l, lt, reads, ahead⟩⟩ := timed locked
    · exact ⟨locks, .inl indefinite⟩
    · exact ⟨locks, .inr ⟨l, Nat.lt_succ_of_lt lt, reads, ahead⟩⟩
  | _ => trivial

theorem Timed.turn (event : w.schedule n = .turn i) (timed : w.Timed i n (w.stage i n)) :
    w.Timed i (n + 1) (w.stage i (n + 1)) := by
  have leads := Stage.leadsTo_turn (w.command i) ⟨w.rows n, w.now n⟩ (w.stage i n)
  rw [← stage_of_turn event] at leads
  generalize stands : w.stage i n = st at leads timed
  generalize w.stage i (n + 1) = next at leads
  cases leads with
  | replacing d reasons t later =>
    have reads : w.ReadsClock i n := asks_question event (by rw [stands]; rfl)
    exact fun _ => ⟨timed.2, .inr ⟨n, n.lt_succ_self, reads, Instant.lt_of_after? timed.1 later⟩⟩
  | _ => trivial

theorem timed (w : Workload ι) (i : ι) (n : Nat) : w.Timed i n (w.stage i n) := by
  induction n with
  | zero => exact w.timed_first i
  | succ n ih =>
    by_cases event : w.schedule n = .turn i
    · exact ih.turn event
    · rw [stage_of_not_turn event]
      exact ih.wait

/-! ### Reads -/

/-- An operation made a release that took off nothing: no row of its key was expired at the instant
that it named. -/
def Vain (w : Workload ι) (i : ι) (e : Nat) (t : Instant) : Prop :=
  w.MakesCall i e (.expire (w.command i).key t) ∧
    ∀ f, w.rows e (w.command i).key = some f → f.isExpiredAt t = false

/-- **A read at one instant reports a feature that was there right after its last call**: one that
is not expired then, or one that it found in its second search. -/
def Reported (w : Workload ι) (i : ι) (reply : Reply) (l : Nat) : Prop :=
  ∃ m f, w.ReadsClock i m ∧ w.rows (l + 1) (w.command i).key = some f ∧
    reply = (w.command i).report f ∧
    (f.isExpiredAt (w.now m) = false ∨ ∃ e, m < e ∧ e < l ∧ w.Vain i e (w.now m) ∧
      w.MakesCall i l (.find (w.command i).key) ∧ w.rows l (w.command i).key = some f)

/-- **What is known of a read that stands at a stage.** -/
def Looked (w : Workload ι) (i : ι) (n : Nat) : Stage → Prop
  | .releasing _ t => ∃ m < n, w.ReadsClock i m ∧ w.now m = t
  | .searchingAgain => ∃ m e, m < e ∧ e < n ∧ w.ReadsClock i m ∧ w.Vain i e (w.now m)
  | .finished (.ok reply) => ∃ l, w.LatestCall i n l ∧ w.Reported i reply l
  | _ => True

theorem Looked.wait {st : Stage} (looked : w.Looked i n st) (waits : ∀ q, ¬ w.Asks i n q) :
    w.Looked i (n + 1) st := by
  cases st with
  | releasing f t =>
    obtain ⟨m, lt, reads⟩ := looked
    exact ⟨m, Nat.lt_succ_of_lt lt, reads⟩
  | searchingAgain =>
    obtain ⟨m, e, lt, lt', reads⟩ := looked
    exact ⟨m, e, lt, Nat.lt_succ_of_lt lt', reads⟩
  | finished result =>
    cases result with
    | error e => trivial
    | ok reply =>
      obtain ⟨l, latest, reported⟩ := looked
      exact ⟨l, latest.succ fun c => waits (.call c), reported⟩
  | _ => trivial

section Turns

variable (event : w.schedule n = .turn i)

include event

theorem looked_judging (stands : w.stage i n = .judging f) :
    w.Looked i (n + 1) (w.stage i (n + 1)) := by
  have story := w.story i n
  rw [stands] at story
  obtain ⟨-, -, l, latest, found, same⟩ := story
  have reads : w.ReadsClock i n := asks_question event (by rw [stands]; rfl)
  have next := stage_of_turn event
  simp only [stands, Stage.turn] at next
  by_cases expired : f.isExpiredAt (w.now n) = true
  · rw [if_pos expired] at next
    rw [next]
    exact ⟨n, n.lt_succ_self, reads, rfl⟩
  · rw [if_neg expired] at next
    rw [next]
    have call : ∀ c, ¬ w.MakesCall i n c := by
      intro c makes
      cases reads.eq makes
    refine ⟨l, latest.succ call, n, f, reads, same ▸ found, rfl, .inl ?_⟩
    exact Bool.eq_false_iff.mpr expired

theorem Looked.turn_releasing {t : Instant} (stands : w.stage i n = .releasing f t)
    (looked : w.Looked i n (.releasing f t)) : w.Looked i (n + 1) (w.stage i (n + 1)) := by
  obtain ⟨m, lt, reads, rfl⟩ := looked
  have story := w.story i n
  rw [stands] at story
  obtain ⟨-, -, -, key⟩ := story
  have call : w.MakesCall i n _ := asks_question event (by rw [stands]; rfl)
  have next := stage_of_turn event
  have rows := rows_of_turn event
  rw [stands] at next rows
  by_cases vain : ∀ g, w.rows n (w.command i).key = some g → g.isExpiredAt (w.now m) = false
  · rw [next, Stage.turn_releasing_of_vain (l := ⟨w.rows n, w.now n⟩) vain]
    exact ⟨m, n, lt, n.lt_succ_self, reads, call, vain⟩
  · simp only [not_forall, Bool.not_eq_false] at vain
    obtain ⟨g, found, expired⟩ := vain
    rw [Stage.turn_releasing_of_expired (l := ⟨w.rows n, w.now n⟩) found expired] at next rows
    rw [next]
    -- without its lock what the first search found is the fresh feature that is stored now
    have fresh : f.unlocked = .fresh (w.command i).key := by rw [f.unlocked_eq_fresh, key]
    refine ⟨n, latestCall_self call, m, f.unlocked, reads, ?_, rfl, .inl (by rw [fresh]; rfl)⟩
    rw [rows, fresh]
    exact Function.update_self _ _ _

theorem Looked.turn_searchingAgain (stands : w.stage i n = .searchingAgain)
    (looked : w.Looked i n .searchingAgain) : w.Looked i (n + 1) (w.stage i (n + 1)) := by
  obtain ⟨m, e, lt, lt', reads, vain⟩ := looked
  have call : w.MakesCall i n _ := asks_question event (by rw [stands]; rfl)
  have next := stage_of_turn event
  have rows := rows_of_turn event
  rw [stands] at next rows
  simp only [Stage.turn, Stage.ending, Contents.Step.look] at next rows
  cases found : w.rows n (w.command i).key with
  | none =>
    simp only [found] at next
    rw [next]
    trivial
  | some g =>
    simp only [found] at next rows
    rw [next]
    refine ⟨n, latestCall_self call, m, g, reads, rows ▸ found, rfl, .inr ?_⟩
    exact ⟨e, lt, lt', vain, call, found⟩

end Turns

/-- **What is known of a read holds at every moment.** -/
theorem looked (w : Workload ι) (read : (w.command i).IsRead) (n : Nat) :
    w.Looked i n (w.stage i n) := by
  induction n with
  | zero =>
    have opens := Stage.opens_first w.service (w.command i)
    rw [stage]
    generalize Stage.first w.service (w.command i) = st at opens
    cases opens <;> trivial
  | succ n ih =>
    by_cases event : w.schedule n = .turn i
    · have looking := w.looking read n
      cases stands : w.stage i n with
      | searching =>
        have next := stage_of_turn event
        rw [stands] at next
        simp only [Stage.turn] at next
        split at next <;> rw [next] <;> trivial
      | judging f => exact looked_judging event stands
      | releasing f t => exact (stands ▸ ih).turn_releasing event stands
      | searchingAgain => exact (stands ▸ ih).turn_searchingAgain event stands
      | finished result =>
        rw [stage_of_finished stands n.le_succ]
        exact (stands ▸ ih).wait (not_asks_of_finished stands (Nat.le_refl n))
      | _ =>
        rw [stands] at looking
        exact looking.elim
    · rw [stage_of_not_turn event]
      exact ih.wait fun q h => event h.1

/-- **A lock that came late**: an operation that read the clock before a moment, when the deadline
lay ahead, and put its feature in place after a release, but before another moment. -/
def LockedLate (w : Workload ι) (f : Feature) (m e n : Nat) : Prop :=
  ∃ j a l, (w.command j).IsLock ∧ w.ReadsClock j a ∧ a < m ∧ w.now a < f.unlockTime ∧
    e < l ∧ l < n ∧ w.MakesCall j l (.update f)

/-- **A lock that is expired though nothing was found expired came late.** -/
theorem Forward.lockedLate (forward : w.Forward) {e : Nat} (vain : w.Vain i e (w.now m))
    (later : e < n) (found : w.rows n (w.command i).key = some f)
    (expired : f.isExpiredAt (w.now m) = true) : w.LockedLate f m e n := by
  obtain ⟨locked, deadline, past⟩ := (f.isExpiredAt_iff _).mp expired
  have other : w.rows e (w.command i).key ≠ some f := by
    intro there
    rw [vain.2 f there] at expired
    cases expired
  have used : f ≠ .fresh (w.command i).key := by
    rintro rfl
    cases locked
  obtain ⟨l, from_e, before, j, event, stands, key⟩ :=
    row_comes (Nat.le_of_lt later) other found used
  have timed := w.timed j l
  rw [stands] at timed
  obtain ⟨locks, indefinite | ⟨a, -, reads, ahead⟩⟩ := timed locked
  · rw [indefinite] at deadline
    exact absurd deadline Int64.lt_irrefl
  · have updates : w.MakesCall j l (.update f) := asks_question event (by rw [stands]; rfl)
    refine ⟨j, a, l, locks, reads, ?_, ahead, ?_, before, updates⟩
    · -- the deadline has passed for the read and lay ahead for the lock, on one clock
      refine Nat.lt_of_not_le fun le => ?_
      have passed := Int64.lt_of_lt_of_le past (forward.now_le le)
      exact Int64.lt_irrefl (Int64.lt_trans passed ahead)
    · -- the release and the update are calls of different operations
      refine Nat.lt_of_le_of_ne from_e ?_
      rintro rfl
      cases vain.1.1.symm.trans event
      cases vain.1.eq updates

end Workload

/-- **A read reports by its clock**, but for a lock that came late.  For every schedule in which the
clock is never set back: a read that succeeds has read the clock, and reports a feature that is
stored right after its last call.  That feature is not expired at the instant that the read has
read.  Or the read found another lock expired, released nothing, and searched once more; and the
lock that it found then was put in place after the release, by an operation that had read the clock
before the read did. -/
theorem read_reports_by_its_clock {ι : Type} [DecidableEq ι] (w : Workload ι) (forward : w.Forward)
    {i : ι} (read : (w.command i).IsRead) {reply : Reply} (answers : w.Answers i (.ok reply)) :
    ∃ m n f, w.ReadsClock i m ∧ w.IsLastCall i n ∧ w.rows (n + 1) (w.command i).key = some f ∧
      reply = (w.command i).report f ∧
      (f.isExpiredAt (w.now m) = false ∨
        ∃ e, m < e ∧ w.Vain i e (w.now m) ∧ w.MakesCall i n (.find (w.command i).key) ∧
          w.LockedLate f m e n) := by
  obtain ⟨t, finished⟩ := Workload.answers_iff.mp answers
  have looked := w.looked read t
  rw [finished] at looked
  obtain ⟨n, latest, m, f, reads, stored, reports, timely⟩ := looked
  refine ⟨m, n, f, reads, latest.isLastCall finished, stored, reports, ?_⟩
  cases expired : f.isExpiredAt (w.now m) with
  | false => exact .inl rfl
  | true =>
    obtain valid | ⟨e, later, before, vain, call, found⟩ := timely
    · rw [expired] at valid
      cases valid
    · exact .inr ⟨e, later, vain, call, forward.lockedLate vain before found expired⟩

/-- The read of the race reports the new lock, which is stored right after its second search. -/
theorem race_read_reports_by_its_clock :
    Workload.race.Forward ∧
      ∃ m n, Workload.race.ReadsClock true m ∧ Workload.race.IsLastCall true n ∧
      Workload.race.rows (n + 1) ⟨1, "alice", "api"⟩ =
        some ⟨⟨1, "alice", "api"⟩, true, 0, ["fraud"], ["fraud"]⟩ := by
  have answers : Workload.race.Answers true
      (.ok (.feature ⟨⟨1, "alice", "api"⟩, true, 0, ["fraud"], ["fraud"]⟩)) := ⟨5, rfl⟩
  have read : (Workload.race.command true).IsRead := trivial
  obtain ⟨m, n, f, reads, last, stored, reports, -⟩ :=
    read_reports_by_its_clock Workload.race Workload.race_forward read answers
  cases reports
  exact ⟨Workload.race_forward, m, n, reads, last, stored⟩

/-! ### A lock that comes late -/

namespace Workload

/-- A feature is read while one operation locks it for a moment and another one unlocks it. -/
inductive Party where
  | reader
  | locker
  | unlocker
  deriving DecidableEq

/-- The lock reads the clock and then waits, while its deadline passes.  The read finds an older
lock expired, but that is taken off before it comes to release it; then the lock is put in place,
and the read finds it. -/
def lateLock : Workload Party where
  service := ⟨.empty, standardDuration⟩
  backend := .memory
  written := [.insert ⟨⟨1, "alice", "api"⟩, true, 10, [], []⟩]
  start := 20
  command
    | .reader => .read ⟨1, "alice", "api"⟩
    | .locker => .lock ⟨1, "alice", "api"⟩ (some (.ofMillis 5)) ["fraud"]
    | .unlocker => .unlock ⟨1, "alice", "api"⟩
  schedule
    | 0 => .turn .locker
    | 1 => .setClock 30
    | 4 => .turn .unlocker
    | 6 => .turn .locker
    | _ => .turn .reader

theorem lateLock_forward : lateLock.Forward := by
  intro n
  by_cases set : n = 1
  · subst set
    decide
  · obtain ⟨i, event⟩ : ∃ i, lateLock.schedule n = .turn i := by
      match n with
      | 0 => exact ⟨_, rfl⟩
      | 1 => exact absurd rfl set
      | 2 => exact ⟨_, rfl⟩
      | 3 => exact ⟨_, rfl⟩
      | 4 => exact ⟨_, rfl⟩
      | 5 => exact ⟨_, rfl⟩
      | 6 => exact ⟨_, rfl⟩
      | n + 7 => exact ⟨_, rfl⟩
    rw [now_of_turn event]
    exact Int64.le_refl _

end Workload

/-- **A read can report a lock that had expired at the instant that the read has read.** -/
theorem lock_reported_after_its_deadline :
    Workload.lateLock.Forward ∧ ∃ f m, Workload.lateLock.Answers .reader (.ok (.feature f)) ∧
      Workload.lateLock.ReadsClock .reader m ∧
      f.isExpiredAt (Workload.lateLock.now m) = true := by
  refine ⟨Workload.lateLock_forward, ⟨⟨1, "alice", "api"⟩, true, 25, ["fraud"], ["fraud"]⟩, 3,
    ⟨8, rfl⟩, ⟨rfl, _, rfl⟩, ?_⟩
  decide

end FeatureLock
