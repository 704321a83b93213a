import FeatureLock.Proofs.Lock.Calls
import FeatureLock.Proofs.Lock.DelayedLock

/-!
# Readers of one lock release it once

Any number of operations read one feature while its lock expires.  Each of them reads the
clock for itself and may find that the deadline has passed; whoever comes first releases
the lock, and the releases of all others take off nothing.  They search once more, and
find the fresh feature.

## Main Definitions

- `Workload.Releases`: a release that is answered as successful
- `Workload.Shares`: a timed lock that is only read
- `Workload.Kept`, `Workload.Released`: the two conditions in which it can be
- `Workload.Glimpsed`: what is known of a read of it that stands at a stage

Main statements: `Workload.Shares.kept_or_released`, the lock is in one of the two
conditions at every moment; `Workload.Shares.glimpsed`, what is known of a read holds at
every moment; and `shared_lock_is_released_once`.

## Design Notes

Operations on other keys go on at the same time, and may be of any kind.  The clock may be
set in any way, so that each read gets a reading of its own.
-/

namespace FeatureLock

namespace Stage

/-! ### Turns -/

/-- A turn leaves the rows of all keys but that of its call. -/
theorem turn_of_ne {c : Command} {st : Stage} {l : Ledger} {k : Key}
    (other : ∀ call, st.question c = some (.call call) → k ≠ call.key) :
    (st.turn c l).2 k = l.rows k := by
  cases left : st.program c with
  | done result =>
    obtain rfl := eq_finished_of_program left
    rfl
  | ask q next =>
    have question := exists_program_eq_ask_iff.mp ⟨next, left⟩
    obtain ⟨-, ledger⟩ := program_turn left l
    rw [show (st.turn c l).2 = (l.answer q).2.rows by rw [ledger]]
    cases q with
    | call call => exact Contents.answer_of_ne call l.rows (other call question)
    | clock => rfl

/-- A read leaves the rows but for its release. -/
theorem Looking.turn_rows {st : Stage} (looking : st.Looking) (on : ∀ f t, st ≠ .releasing f t)
    (c : Command) (l : Ledger) : (st.turn c l).2 = l.rows := by
  cases st with
  | searching =>
    simp only [Stage.turn]
    split <;> rfl
  | judging f => rfl
  | releasing f t => exact absurd rfl (on f t)
  | searchingAgain =>
    simp only [Stage.turn, ending, Contents.Step.look]
    split <;> rfl
  | finished result => rfl
  | _ => exact looking.elim

/-- A read begins with a search, once its key is accepted. -/
theorem first_of_read {c : Command} (read : c.IsRead) (s : Service) :
    first s c = checked c.key.validate fun _ => searching := by
  cases c with
  | read k => rfl
  | isLocked k => rfl
  | lockReasons k => rfl
  | _ => exact read.elim

end Stage

namespace Workload

variable {ι : Type} [DecidableEq ι] {w : Workload ι} {i j : ι} {n m : Nat} {k : Key} {f : Feature}

/-- What an operation is about to put in place has its key. -/
theorem key_of_replacing (stands : w.stage i n = .replacing f) : f.key = (w.command i).key := by
  induction n with
  | zero =>
    have under := w.service.perform_under (w.command i)
    rw [Service.perform_eq_program,
      show Stage.first w.service (w.command i) = _ from stands] at under
    exact under.1
  | succ n ih =>
    by_cases event : w.schedule n = .turn i
    · have leads := Stage.leadsTo_turn (w.command i) ⟨w.rows n, w.now n⟩ (w.stage i n)
      rw [← stage_of_turn event, stands] at leads
      generalize w.stage i n = st at leads
      cases leads
      rfl
    · rw [stage_of_not_turn event] at stands
      exact ih stands

/-- The calls of an operation are under its key. -/
theorem key_of_call {c : Call} (makes : w.MakesCall i n c) : c.key = (w.command i).key := by
  obtain ⟨-, question⟩ := asks_iff.mp makes
  cases stands : w.stage i n with
  | replacing f =>
    rw [stands] at question
    cases question
    exact key_of_replacing stands
  | _ =>
    rw [stands] at question
    cases question <;> rfl

/-- A turn leaves the rows of other keys. -/
theorem rows_of_turn_of_ne (event : w.schedule n = .turn i) (other : k ≠ (w.command i).key) :
    w.rows (n + 1) k = w.rows n k := by
  rw [rows_of_turn event]
  refine Stage.turn_of_ne fun c question own => other ?_
  exact own.trans (key_of_call (asks_question event question))

/-- **An operation reads the clock once.** -/
theorem ReadsClock.unique (reads : w.ReadsClock i n) (reads' : w.ReadsClock i m) : n = m := by
  -- whoever is about to read the clock has not read it before
  have first : ∀ {n m}, w.ReadsClock i n → w.ReadsClock i m → ¬ n < m := by
    intro n m reads reads' before
    have story := w.story i m
    obtain ⟨-, question⟩ := asks_iff.mp reads'
    cases stands : w.stage i m with
    | judging f =>
      rw [stands] at story
      exact story.1 n before reads
    | timing d reasons =>
      rw [stands] at story
      exact story.2.1 n before reads
    | _ =>
      rw [stands] at question
      cases question
  exact Nat.le_antisymm (Nat.le_of_not_lt (first reads' reads))
    (Nat.le_of_not_lt (first reads reads'))

/-! ### Releases -/

/-- **An operation makes a release of a key that is answered as successful.** -/
def Releases (w : Workload ι) (i : ι) (k : Key) (n : Nat) : Prop :=
  ∃ t, w.MakesCall i n (.expire k t) ∧
    ((w.after n).session.answer (.call (.expire k t))).1 =
      (.ok (true : Bool) : Outcome (.expire k t))

/-- A release is answered as successful where it finds an expired lock. -/
theorem answer_expire {t : Instant} :
    ((w.after n).session.answer (.call (.expire k t))).1 =
        (.ok (true : Bool) : Outcome (.expire k t)) ↔
      ∃ f, w.rows n k = some f ∧ f.isExpiredAt t = true := by
  rw [((w.tracks n).1.answer (.call (.expire k t))).1]
  change ((w.rows n).answer (.expire k t)).1 = _ ↔ _
  simp only [Contents.answer]
  constructor
  · intro answered
    split at answered
    · next f found =>
      split at answered
      · next expired => exact ⟨f, found, expired⟩
      · cases answered
    · cases answered
  · rintro ⟨f, found, expired⟩
    simp only [found, expired, if_true]

/-- **A release is successful** when its operation has judged that it is necessary and the lock is
still there. -/
theorem releases_iff :
    w.Releases i k n ↔ w.schedule n = .turn i ∧ (w.command i).key = k ∧
      ∃ g t f, w.stage i n = .releasing g t ∧ w.rows n k = some f ∧ f.isExpiredAt t = true := by
  constructor
  · rintro ⟨t, makes, answered⟩
    obtain ⟨event, question⟩ := asks_iff.mp makes
    obtain ⟨f, found, expired⟩ := answer_expire.mp answered
    cases stands : w.stage i n with
    | releasing g t' =>
      rw [stands] at question
      cases question
      exact ⟨event, rfl, g, t, f, rfl, found, expired⟩
    | _ =>
      rw [stands] at question
      cases question
  · rintro ⟨event, rfl, g, t, f, stands, found, expired⟩
    refine ⟨t, asks_question event ?_, answer_expire.mpr ⟨f, found, expired⟩⟩
    rw [stands]
    rfl

/-! ### A lock that is only read -/

/-- **A timed lock that is only read**: the operations on its key are reads. -/
structure Shares (w : Workload ι) (k : Key) (f : Feature) : Prop where
  stored : w.rows 0 k = some f
  locked : f.locked = true
  timed : noDeadline < f.unlockTime
  read : ∀ i, (w.command i).key = k → (w.command i).IsRead

/-- The lock is there, and no release was successful before a moment. -/
def Kept (w : Workload ι) (k : Key) (f : Feature) (n : Nat) : Prop :=
  w.rows n k = some f ∧ ∀ m < n, ∀ i, ¬ w.Releases i k m

/-- The lock was taken off, and exactly one release was successful before a moment. -/
def Released (w : Workload ι) (k : Key) (n : Nat) : Prop :=
  w.rows n k = some (.fresh k) ∧ ∃! p : ι × Nat, p.2 < n ∧ w.Releases p.1 k p.2

theorem Released.exists (h : w.Released k n) : ∃ m < n, ∃ i, w.Releases i k m := by
  obtain ⟨-, ⟨i, m⟩, ⟨before, releases⟩, -⟩ := h
  exact ⟨m, before, i, releases⟩

namespace Shares

variable (h : w.Shares k f)

include h

theorem expired_iff (t : Instant) : f.isExpiredAt t = true ↔ f.unlockTime < t := by
  rw [Feature.isExpiredAt_iff]
  exact ⟨fun expired => expired.2.2, fun past => ⟨h.locked, h.timed, past⟩⟩

/-- **At a moment the row stays**, or a release is successful and leaves the fresh feature. -/
theorem row_succ (n : Nat) :
    (w.rows (n + 1) k = w.rows n k ∧ ∀ i, ¬ w.Releases i k n) ∨
      ∃ i, w.Releases i k n ∧ w.rows (n + 1) k = some (.fresh k) := by
  cases event : w.schedule n with
  | setClock t =>
    refine .inl ⟨congrFun (rows_of_setClock event) k, fun i releases => ?_⟩
    cases event.symm.trans (releases_iff.mp releases).1
  | turn j =>
    -- nobody else has a turn, so a release is one of `j`
    have own : ∀ i, w.Releases i k n → i = j := by
      intro i releases
      cases event.symm.trans (releases_iff.mp releases).1
      rfl
    by_cases key : (w.command j).key = k
    · have looking := w.looking (h.read j key) n
      have rows := rows_of_turn event
      by_cases on : ∃ g t, w.stage j n = .releasing g t
      · obtain ⟨g, t, stands⟩ := on
        rw [stands] at rows
        by_cases vain : ∀ g, w.rows n (w.command j).key = some g → g.isExpiredAt t = false
        · rw [Stage.turn_releasing_of_vain (l := ⟨w.rows n, w.now n⟩) vain] at rows
          refine .inl ⟨congrFun rows k, fun i releases => ?_⟩
          obtain ⟨-, -, g', t', f', stands', found, expired⟩ := releases_iff.mp releases
          rw [own i releases, stands] at stands'
          cases stands'
          rw [vain f' (key ▸ found)] at expired
          cases expired
        · simp only [not_forall, Bool.not_eq_false] at vain
          obtain ⟨f', found, expired⟩ := vain
          rw [Stage.turn_releasing_of_expired (l := ⟨w.rows n, w.now n⟩) found expired] at rows
          rw [key] at found rows
          refine .inr ⟨j, releases_iff.mpr ⟨event, key, g, t, f', stands, found, expired⟩, ?_⟩
          rw [rows]
          exact Function.update_self _ _ _
      · rw [looking.turn_rows fun g t stands => on ⟨g, t, stands⟩] at rows
        refine .inl ⟨congrFun rows k, fun i releases => on ?_⟩
        obtain ⟨-, -, g, t, -, stands, -⟩ := releases_iff.mp releases
        exact ⟨g, t, own i releases ▸ stands⟩
    · refine .inl ⟨rows_of_turn_of_ne event (Ne.symm key), fun i releases => key ?_⟩
      rw [← own i releases]
      exact (releases_iff.mp releases).2.1

/-- **The lock is there and was not released, or it was released once.** -/
theorem kept_or_released (n : Nat) : w.Kept k f n ∨ w.Released k n := by
  induction n with
  | zero => exact .inl ⟨h.stored, fun m before => absurd before (Nat.not_lt_zero m)⟩
  | succ n ih =>
    rcases h.row_succ n with ⟨same, none⟩ | ⟨i, releases, fresh⟩
    · rcases ih with ⟨found, before⟩ | ⟨found, p, ⟨lt, releases⟩, only⟩
      · exact .inl ⟨same.trans found, Nat.forall_lt_succ_right.mpr ⟨before, none⟩⟩
      · refine .inr ⟨same.trans found, p, ⟨Nat.lt_succ_of_lt lt, releases⟩, ?_⟩
        rintro q ⟨le, releases'⟩
        rcases Nat.lt_succ_iff_lt_or_eq.mp le with lt' | now
        · exact only q ⟨lt', releases'⟩
        · exact absurd (now ▸ releases') (none q.1)
    · rcases ih with ⟨-, before⟩ | ⟨found, -⟩
      · refine .inr ⟨fresh, (i, n), ⟨n.lt_succ_self, releases⟩, ?_⟩
        rintro ⟨j, m⟩ ⟨le, releases'⟩
        rcases Nat.lt_succ_iff_lt_or_eq.mp le with lt' | rfl
        · exact absurd releases' (before m lt' j)
        · cases (releases_iff.mp releases).1.symm.trans (releases_iff.mp releases').1
          rfl
      · -- the fresh feature is not expired, so it is not released again
        obtain ⟨-, -, _, _, f', -, found', expired⟩ := releases_iff.mp releases
        cases found.symm.trans found'
        cases expired

/-- The lock that was taken off does not come back. -/
theorem fresh_succ (fresh : w.rows n k = some (.fresh k)) : w.rows (n + 1) k = some (.fresh k) := by
  rcases h.row_succ n with ⟨same, -⟩ | ⟨-, -, released⟩
  · exact same.trans fresh
  · exact released

end Shares

/-! ### What the readers see -/

/-- A read that read the clock at a moment has a result: the fresh feature, if the deadline had
passed, and else the lock, or the fresh feature if a release was successful before. -/
def Settled (w : Workload ι) (i : ι) (k : Key) (f : Feature) (m n : Nat)
    (result : Except Failure Reply) : Prop :=
  (f.unlockTime < w.now m →
      result = .ok ((w.command i).report (.fresh k)) ∧ w.rows n k = some (.fresh k)) ∧
    (w.now m ≤ f.unlockTime → result = .ok ((w.command i).report f) ∨
      result = .ok ((w.command i).report (.fresh k)) ∧ ∃ l < m, ∃ j, w.Releases j k l)

/-- **What is known of a read that stands at a stage.** -/
def Glimpsed (w : Workload ι) (i : ι) (k : Key) (f : Feature) (n : Nat) : Stage → Prop
  | .searching => True
  | .judging g => g = f ∨ (g = .fresh k ∧ ∃ m < n, ∃ j, w.Releases j k m)
  | .releasing g t => g = f ∧ ∃ m, w.ReadsClock i m ∧ w.now m = t ∧ f.unlockTime < t
  | .searchingAgain =>
    w.rows n k = some (.fresh k) ∧ ∃ m, w.ReadsClock i m ∧ f.unlockTime < w.now m
  | .finished result =>
    (∃ why, k.validate = .error why ∧ result = .error (.illegalArgument why)) ∨
      ∃ m, w.ReadsClock i m ∧ w.Settled i k f m n result
  | _ => False

namespace Shares

variable (h : w.Shares k f)

include h

theorem glimpsed_zero (key : (w.command i).key = k) : w.Glimpsed i k f 0 (w.stage i 0) := by
  rw [stage, Stage.first_of_read (h.read i key), key]
  cases validity : k.validate with
  | ok _ => trivial
  | error why => exact .inl ⟨why, validity, rfl⟩

theorem glimpsed_wait {st : Stage} (seen : w.Glimpsed i k f n st) :
    w.Glimpsed i k f (n + 1) st := by
  cases st with
  | judging g =>
    rcases seen with lock | ⟨fresh, m, before, released⟩
    · exact .inl lock
    · exact .inr ⟨fresh, m, Nat.lt_succ_of_lt before, released⟩
  | searchingAgain => exact ⟨h.fresh_succ seen.1, seen.2⟩
  | finished result =>
    rcases seen with refused | ⟨m, reads, late, timely⟩
    · exact .inl refused
    · exact .inr ⟨m, reads, fun past => ⟨(late past).1, h.fresh_succ (late past).2⟩, timely⟩
  | _ => exact seen

section Turns

variable (event : w.schedule n = .turn i)

include event

/-- The first search finds the lock, or the fresh feature after a release. -/
theorem glimpsed_searching (key : (w.command i).key = k) (stands : w.stage i n = .searching) :
    w.Glimpsed i k f (n + 1) (w.stage i (n + 1)) := by
  have next := stage_of_turn event
  simp only [stands, Stage.turn, key] at next
  rcases h.kept_or_released n with ⟨found, -⟩ | released
  · rw [next, found]
    exact .inl rfl
  · rw [next, released.1]
    obtain ⟨m, before, releases⟩ := released.exists
    exact .inr ⟨rfl, m, Nat.lt_succ_of_lt before, releases⟩

/-- The clock decides whether the lock has to be released. -/
theorem glimpsed_judging {g : Feature} (stands : w.stage i n = .judging g)
    (seen : w.Glimpsed i k f n (.judging g)) : w.Glimpsed i k f (n + 1) (w.stage i (n + 1)) := by
  have reads : w.ReadsClock i n := asks_question event (by rw [stands]; rfl)
  have next := stage_of_turn event
  simp only [stands, Stage.turn] at next
  rcases seen with rfl | ⟨rfl, m, before, released⟩
  · by_cases past : g.unlockTime < w.now n
    · rw [if_pos ((h.expired_iff _).mpr past)] at next
      rw [next]
      exact ⟨rfl, n, reads, rfl, past⟩
    · rw [if_neg fun expired => past ((h.expired_iff _).mp expired)] at next
      rw [next]
      exact .inr ⟨n, reads, fun late => absurd late past, fun _ => .inl rfl⟩
  · -- the fresh feature never expires, and it is still there
    have fresh : w.rows n k = some (.fresh k) := by
      rcases h.kept_or_released n with ⟨-, none⟩ | ⟨fresh, -⟩
      · obtain ⟨j, releases⟩ := released
        exact absurd releases (none m before j)
      · exact fresh
    rw [Feature.isExpiredAt_fresh, if_neg Bool.false_ne_true] at next
    rw [next]
    exact .inr ⟨n, reads, fun _ => ⟨rfl, h.fresh_succ fresh⟩,
      fun _ => .inr ⟨rfl, m, before, released⟩⟩

/-- A release takes off the lock, or comes late. -/
theorem glimpsed_releasing {g : Feature} {t : Instant} (key : (w.command i).key = k)
    (stands : w.stage i n = .releasing g t) (seen : w.Glimpsed i k f n (.releasing g t)) :
    w.Glimpsed i k f (n + 1) (w.stage i (n + 1)) := by
  obtain ⟨rfl, m, reads, rfl, past⟩ := seen
  have next := stage_of_turn event
  have rows := rows_of_turn event
  rw [stands] at next rows
  rcases h.kept_or_released n with ⟨found, -⟩ | ⟨found, -⟩
  · rw [Stage.turn_releasing_of_expired (l := ⟨w.rows n, w.now n⟩) (key ▸ found)
      ((h.expired_iff _).mpr past)] at next rows
    have unlocked : g.unlocked = .fresh k := by rw [g.unlocked_eq_fresh, w.key_of_rows found]
    rw [key] at rows
    rw [next, unlocked]
    refine .inr ⟨m, reads, fun _ => ⟨rfl, ?_⟩, fun timely => ?_⟩
    · rw [rows]
      exact Function.update_self _ _ _
    · exact absurd (Int64.lt_of_lt_of_le past timely) Int64.lt_irrefl
  · have vain : ∀ g, w.rows n (w.command i).key = some g → g.isExpiredAt (w.now m) = false := by
      rw [key, found]
      rintro _ ⟨⟩
      rfl
    rw [Stage.turn_releasing_of_vain (l := ⟨w.rows n, w.now n⟩) vain] at next rows
    rw [next]
    exact ⟨(congrFun rows k).trans found, m, reads, past⟩

/-- The second search finds the fresh feature. -/
theorem glimpsed_searchingAgain (key : (w.command i).key = k)
    (stands : w.stage i n = .searchingAgain) (seen : w.Glimpsed i k f n .searchingAgain) :
    w.Glimpsed i k f (n + 1) (w.stage i (n + 1)) := by
  obtain ⟨fresh, m, reads, past⟩ := seen
  have next := stage_of_turn event
  simp only [stands, Stage.turn, Stage.ending, Contents.Step.look, key, fresh] at next
  rw [next]
  refine .inr ⟨m, reads, fun _ => ⟨rfl, h.fresh_succ fresh⟩, fun timely => ?_⟩
  exact absurd (Int64.lt_of_lt_of_le past timely) Int64.lt_irrefl

end Turns

/-- **What is known of a read holds at every moment.** -/
theorem glimpsed (key : (w.command i).key = k) (n : Nat) : w.Glimpsed i k f n (w.stage i n) := by
  induction n with
  | zero => exact h.glimpsed_zero key
  | succ n ih =>
    by_cases event : w.schedule n = .turn i
    · cases stands : w.stage i n with
      | searching => exact h.glimpsed_searching event key stands
      | judging g => exact h.glimpsed_judging event stands (stands ▸ ih)
      | releasing g t => exact h.glimpsed_releasing event key stands (stands ▸ ih)
      | searchingAgain => exact h.glimpsed_searchingAgain event key stands (stands ▸ ih)
      | finished result =>
        rw [stage_of_finished stands n.le_succ]
        exact h.glimpsed_wait (stands ▸ ih)
      | _ =>
        rw [stands] at ih
        exact ih.elim
    · rw [stage_of_not_turn event]
      exact h.glimpsed_wait ih

/-- **What is known of the result of a read.**  A read that was refused has not read the clock. -/
theorem settled (key : (w.command i).key = k) {result : Except Failure Reply}
    (done : (w.after n).pending i = .done result) :
    ((∃ why, k.validate = .error why ∧ result = .error (.illegalArgument why)) ∨
        ∃ m, w.ReadsClock i m) ∧
      ∀ m, w.ReadsClock i m → w.Settled i k f m n result := by
  rw [(w.tracks n).2 i] at done
  have seen := h.glimpsed key n
  rw [Stage.eq_finished_of_program done] at seen
  rcases seen with ⟨why, refused, same⟩ | ⟨m, reads, settled⟩
  · refine ⟨.inl ⟨why, refused, same⟩, fun m reads => ?_⟩
    have begins : w.stage i 0 = Stage.refused why := by
      rw [stage, Stage.first_of_read (h.read i key), key, refused]
      rfl
    have question := (asks_iff.mp reads).2
    rw [stage_of_finished begins (Nat.zero_le m)] at question
    cases question
  · refine ⟨.inr ⟨m, reads⟩, fun m' reads' => ?_⟩
    rw [← reads.unique reads']
    exact settled

/-- **A release is tried only by a read for which the deadline had passed.** -/
theorem past_of_call {t : Instant} (makes : w.MakesCall i n (.expire k t)) :
    (w.command i).key = k ∧ ∃ m, w.ReadsClock i m ∧ f.unlockTime < w.now m := by
  have key : (w.command i).key = k := (key_of_call makes).symm
  refine ⟨key, ?_⟩
  obtain ⟨-, question⟩ := asks_iff.mp makes
  have seen := h.glimpsed key n
  cases stands : w.stage i n with
  | releasing g t' =>
    rw [stands] at seen
    obtain ⟨-, m, reads, rfl, past⟩ := seen
    exact ⟨m, reads, past⟩
  | _ =>
    rw [stands] at question
    cases question

end Shares

end Workload

/-- **Readers of one lock release it once.**  A lock with a deadline is stored, and all operations
on its key are reads: any number of them, side by side in any order with each other, with any
operations on other keys and with a clock that is set in any way.

- At every moment the lock is there and no release was successful so far, or the fresh feature is
  there and exactly one was.  So no two releases are successful.
- A read that comes to a result has read the clock, unless its key is refused.  If the deadline had
  passed then, it reports the fresh feature, and that is what is stored from then on.  If not, it
  reports the lock; or it reports the fresh feature, and a release was successful before.
- If the deadline has passed for no read, the lock stays, and no release is tried.
- Four turns bring every read to a result. -/
theorem shared_lock_is_released_once {ι : Type} [DecidableEq ι] (w : Workload ι) {k : Key}
    {f : Feature} (shared : w.Shares k f) :
    (∀ n, w.Kept k f n ∨ w.Released k n) ∧
      (∀ i j n m, w.Releases i k n → w.Releases j k m → i = j ∧ n = m) ∧
      (∀ i n result, (w.command i).key = k → (w.after n).pending i = .done result →
        ((∃ why, k.validate = .error why ∧ result = .error (.illegalArgument why)) ∨
            ∃ m, w.ReadsClock i m) ∧
          ∀ m, w.ReadsClock i m →
            (f.unlockTime < w.now m → result = .ok ((w.command i).report (.fresh k)) ∧
              w.rows n k = some (.fresh k)) ∧
            (w.now m ≤ f.unlockTime → result = .ok ((w.command i).report f) ∨
              result = .ok ((w.command i).report (.fresh k)) ∧ ∃ l < m, ∃ j, w.Releases j k l)) ∧
      ((∀ i m, (w.command i).key = k → w.ReadsClock i m → w.now m ≤ f.unlockTime) →
        ∀ n, w.rows n k = some f ∧ ∀ i t, ¬ w.MakesCall i n (.expire k t)) ∧
      ∀ i a b c d, a < b → b < c → c < d → (∀ n ∈ [a, b, c, d], w.schedule n = .turn i) →
        ∃ result, w.Answers i result := by
  refine ⟨shared.kept_or_released, ?_, fun i n result key done => shared.settled key done, ?_,
    fun i a b c d => Workload.answers_of_four_turns⟩
  · intro i j n m releases releases'
    have before := Nat.lt_succ_of_le (Nat.le_max_left n m)
    rcases shared.kept_or_released (max n m + 1) with ⟨-, none⟩ | ⟨-, p, -, only⟩
    · exact absurd releases (none n before i)
    · have same := (only (i, n) ⟨before, releases⟩).trans
        (only (j, m) ⟨Nat.lt_succ_of_le (Nat.le_max_right n m), releases'⟩).symm
      exact Prod.mk.inj same
  · intro timely n
    have none : ∀ i n t, ¬ w.MakesCall i n (.expire k t) := by
      intro i n t makes
      obtain ⟨key, m, reads, past⟩ := shared.past_of_call makes
      exact Int64.lt_irrefl (Int64.lt_of_lt_of_le past (timely i m key reads))
    refine ⟨?_, fun i t => none i n t⟩
    rcases shared.kept_or_released n with ⟨found, -⟩ | released
    · exact found
    · obtain ⟨m, -, i, t, makes, -⟩ := released.exists
      exact absurd makes (none i m t)

/-! ### Three readers -/

/-- One read comes before the deadline, and two come after it, while another feature is deleted.
Both find the lock expired; the one that began later is the first to release it. -/
def Workload.threeReaders : Workload (Fin 4) where
  service := ⟨.empty, standardDuration⟩
  backend := .memory
  written := [.insert ⟨⟨1, "alice", "api"⟩, true, 10, ["fraud"], ["fraud"]⟩]
  start := 5
  command
    | 0 => .read ⟨1, "alice", "api"⟩
    | 1 => .isLocked ⟨1, "alice", "api"⟩
    | 2 => .lockReasons ⟨1, "alice", "api"⟩
    | 3 => .delete ⟨2, "alice", "api"⟩
  schedule
    | 0 => .turn 0
    | 1 => .turn 0
    | 2 => .setClock 20
    | 3 => .turn 1
    | 4 => .turn 1
    | 5 => .setClock 30
    | 6 => .turn 2
    | 7 => .turn 2
    | 8 => .turn 3
    | 9 => .turn 2
    | _ => .turn 1

/-- The release of the last reader is the only one that is successful, and the reader that lost
reports that the feature is open. -/
theorem threeReaders_release_once :
    Workload.threeReaders.Shares ⟨1, "alice", "api"⟩
        ⟨⟨1, "alice", "api"⟩, true, 10, ["fraud"], ["fraud"]⟩ ∧
      (∀ i n, Workload.threeReaders.Releases i ⟨1, "alice", "api"⟩ n → i = 2 ∧ n = 9) ∧
      (Workload.threeReaders.after 12).pending 1 = .done (.ok (.flag false)) := by
  have shared : Workload.threeReaders.Shares ⟨1, "alice", "api"⟩
      ⟨⟨1, "alice", "api"⟩, true, 10, ["fraud"], ["fraud"]⟩ := by
    refine ⟨rfl, rfl, by decide, fun i key => ?_⟩
    match i, key with
    | 0, _ => trivial
    | 1, _ => trivial
    | 2, _ => trivial
    | 3, key => cases key
  have released : Workload.threeReaders.Releases 2 ⟨1, "alice", "api"⟩ 9 :=
    ⟨30, ⟨rfl, _, rfl⟩, rfl⟩
  have reads : Workload.threeReaders.ReadsClock 1 4 := ⟨rfl, _, rfl⟩
  obtain ⟨-, once, reports, -⟩ := shared_lock_is_released_once Workload.threeReaders shared
  obtain ⟨result, done⟩ : ∃ result, (Workload.threeReaders.after 12).pending 1 = .done result :=
    ⟨_, rfl⟩
  have late := (((reports 1 12 result rfl done).2 4 reads).1 (by decide)).1
  refine ⟨shared, fun i n releases => once i 2 n 9 releases released, ?_⟩
  rw [done, late]
  rfl

end FeatureLock
