import FeatureLock.Proofs.Lock.Workload

/-!
# A lock stays until it is replaced or expires

A read that found an expired lock releases it later, when the feature may long
have been locked anew.  The release names the instant at which the read looked at
the clock, and takes off only what is expired at that instant; on a clock that is
never set back, a lock that is not expired now was not expired then.

## Main Definitions

- `Call.Replaces`: the calls of locks, unlocks and deletes of a key
- `Stage.Looking`: the stages of a read

Main statements: `Workload.captured`, a release names an instant that was read
before, and `fresh_lock_stays`.
-/

namespace FeatureLock

/-- Whether a call puts another feature in the place of that of a key, or removes it. -/
def Call.Replaces (k : Key) : Call → Prop
  | .update f => f.key = k
  | .delete k' => k' = k
  | _ => False

namespace Stage

/-- **A turn keeps a row** that its call does not replace, unless it releases it. -/
theorem turn_keeps {c : Command} {st : Stage} {l : Ledger} {k : Key} {f : Feature}
    (found : l.rows k = some f)
    (valid : ∀ g t, st = .releasing g t → f.isExpiredAt t = false)
    (spared : ∀ call, st.question c = some (.call call) → ¬ call.Replaces k) :
    (st.turn c l).2 k = some f := by
  cases st with
  | adding =>
    simp only [turn, ending, Contents.Step.create]
    split
    · exact found
    · next free =>
      -- the key of the row is taken, so the fresh feature goes elsewhere
      have ne : k ≠ c.key := by
        rintro rfl
        exact absurd (found.symm.trans free) (Option.some_ne_none f)
      exact (Function.update_of_ne ne _ _).trans found
  | searching =>
    simp only [turn]
    split <;> exact found
  | judging g => exact found
  | releasing g t =>
    simp only [turn]
    split
    · next g' stored =>
      split
      · next expired =>
        -- what is taken off was expired at the instant of the release, and the row was not
        have ne : k ≠ c.key := by
          rintro rfl
          obtain rfl : g' = f := Option.some_inj.mp (stored.symm.trans found)
          rw [valid g t rfl] at expired
          exact Bool.false_ne_true expired
        exact (Function.update_of_ne ne _ _).trans found
      · exact found
    · exact found
  | searchingAgain =>
    simp only [turn, ending, Contents.Step.look]
    split <;> exact found
  | timing d reasons => exact found
  | replacing g =>
    have ne : k ≠ g.key := fun h => spared _ rfl h.symm
    simp only [turn, ending, Contents.Step.put]
    split
    · exact (Function.update_of_ne ne _ _).trans found
    · exact found
  | deleting =>
    have ne : k ≠ c.key := fun h => spared _ rfl h.symm
    exact (Function.update_of_ne ne _ _).trans found
  | finished result => exact found

/-- The stages of a read. -/
def Looking : Stage → Prop
  | adding => False
  | timing _ _ => False
  | replacing _ => False
  | deleting => False
  | _ => True

theorem looking_first {c : Command} (read : c.IsRead) (s : Service) : (first s c).Looking := by
  have looking : ∀ k, (checked (Key.validate k) fun _ => searching).Looking := by
    intro k
    unfold checked
    split <;> trivial
  cases c with
  | read k => exact looking k
  | isLocked k => exact looking k
  | lockReasons k => exact looking k
  | _ => exact read.elim

theorem Looking.turn {st : Stage} (looking : st.Looking) (c : Command) (l : Ledger) :
    (st.turn c l).1.Looking := by
  cases st with
  | searching =>
    simp only [Stage.turn]
    split <;> trivial
  | judging f =>
    simp only [Stage.turn]
    split <;> trivial
  | releasing f t =>
    simp only [Stage.turn]
    split
    · split <;> trivial
    · trivial
  | searchingAgain => trivial
  | finished result => trivial
  | _ => exact looking.elim

/-- A read replaces nothing. -/
theorem Looking.spares {st : Stage} (looking : st.Looking) (c : Command) (k : Key) (call : Call)
    (question : st.question c = some (.call call)) : ¬ call.Replaces k := by
  intro replaces
  cases st with
  | adding => exact looking.elim
  | timing d reasons => exact looking.elim
  | replacing f => exact looking.elim
  | deleting => exact looking.elim
  | judging f => cases question
  | finished result => cases question
  | _ =>
    cases question
    exact replaces.elim

end Stage

namespace Workload

variable {ι : Type} [DecidableEq ι] {w : Workload ι} {i : ι} {n m : Nat}

/-! ### Clock readings of a release -/

/-- **A release names an instant that the clock showed before.** -/
theorem captured {f : Feature} {t : Instant} (releases : w.stage i n = .releasing f t) :
    ∃ m < n, w.now m = t := by
  induction n with
  | zero =>
    have opens := Stage.opens_first w.service (w.command i)
    rw [show Stage.first w.service (w.command i) = .releasing f t from releases] at opens
    cases opens
  | succ n ih =>
    by_cases event : w.schedule n = .turn i
    · rw [stage_of_turn event] at releases
      exact ⟨n, n.lt_succ_self, (Stage.eq_judging_of_turn releases).2.symm⟩
    · rw [stage_of_not_turn event] at releases
      obtain ⟨m, lt, read⟩ := ih releases
      exact ⟨m, Nat.lt_succ_of_lt lt, read⟩

theorem Forward.now_le (forward : w.Forward) (le : n ≤ m) : w.now n ≤ w.now m := by
  induction le with
  | refl => exact Int64.le_refl _
  | step _ ih => exact Int64.le_trans ih (forward _)

/-- What is not expired now was not expired when a release was judged necessary. -/
theorem Forward.not_expired (forward : w.Forward) {f g : Feature} {t : Instant}
    (releases : w.stage i n = .releasing g t) (valid : f.isExpiredAt (w.now n) = false) :
    f.isExpiredAt t = false := by
  obtain ⟨m, lt, rfl⟩ := captured releases
  exact Feature.not_isExpiredAt_mono (forward.now_le (Nat.le_of_lt lt)) valid

/-! ### One moment, and many -/

/-- **A moment keeps a row that is not expired**, unless a call replaces it. -/
theorem Forward.rows_succ (forward : w.Forward) {k : Key} {f : Feature}
    (found : w.rows n k = some f) (valid : f.isExpiredAt (w.now n) = false)
    (spared : ∀ j c, w.MakesCall j n c → ¬ c.Replaces k) : w.rows (n + 1) k = some f := by
  cases event : w.schedule n with
  | setClock t =>
    rw [rows_of_setClock event]
    exact found
  | turn j =>
    rw [rows_of_turn event]
    refine Stage.turn_keeps found (fun g t releases => forward.not_expired releases valid) ?_
    intro c question
    exact spared j c (asks_iff.mpr ⟨event, question⟩)

/-- A row stays as long as it is not expired and no call replaces it. -/
theorem Forward.rows_of_le (forward : w.Forward) {k : Key} {f : Feature}
    (found : w.rows n k = some f) (le : n ≤ m) (valid : f.isExpiredAt (w.now m) = false)
    (spared : ∀ l, n ≤ l → l < m → ∀ j c, w.MakesCall j l c → ¬ c.Replaces k) :
    w.rows m k = some f := by
  -- the clock only goes forward: not expired at the end means not expired on the way
  induction le with
  | refl => exact found
  | @step m le ih =>
    have earlier := Feature.not_isExpiredAt_mono (forward m) valid
    have kept := ih earlier fun l from_n before => spared l from_n (Nat.lt_succ_of_lt before)
    exact forward.rows_succ kept earlier (spared m le m.lt_succ_self)

/-- A replacement stores its feature where there is one. -/
theorem rows_of_update {f g : Feature} (makes : w.MakesCall i n (.update f))
    (present : w.rows n f.key = some g) : w.rows (n + 1) f.key = some f := by
  obtain ⟨event, question⟩ := asks_iff.mp makes
  rw [rows_of_turn event]
  cases stands : w.stage i n <;> rw [stands] at question <;> cases question
  simp only [Stage.turn, Stage.ending, Contents.Step.put, present]
  exact Function.update_self _ _ _

/-- A release takes off nothing that is not expired. -/
theorem Forward.rows_of_expire (forward : w.Forward) {k : Key} {t : Instant} {f : Feature}
    (makes : w.MakesCall i n (.expire k t)) (found : w.rows n k = some f)
    (valid : f.isExpiredAt (w.now n) = false) : w.rows (n + 1) = w.rows n := by
  obtain ⟨event, question⟩ := asks_iff.mp makes
  rw [rows_of_turn event]
  cases stands : w.stage i n with
  | releasing g t' =>
    rw [stands] at question
    cases question
    have kept := forward.not_expired stands valid
    simp only [Stage.turn, found, kept]
    rfl
  | _ =>
    rw [stands] at question
    cases question

theorem looking (w : Workload ι) {i : ι} (read : (w.command i).IsRead) (n : Nat) :
    (w.stage i n).Looking := by
  induction n with
  | zero => exact Stage.looking_first read w.service
  | succ n ih =>
    by_cases event : w.schedule n = .turn i
    · rw [stage_of_turn event]
      exact ih.turn _ _
    · rw [stage_of_not_turn event]
      exact ih

/-- A read takes off no lock without a deadline. -/
theorem rows_of_read (read : (w.command i).IsRead) (event : w.schedule n = .turn i) {k : Key}
    {f : Feature} (found : w.rows n k = some f) (indefinite : f.unlockTime = noDeadline) :
    w.rows (n + 1) k = some f := by
  rw [rows_of_turn event]
  exact Stage.turn_keeps found (fun _ t _ => Feature.isExpiredAt_of_noDeadline indefinite t)
    ((w.looking read n).spares (w.command i) k)

end Workload

/-- **A lock stays until it is replaced or expires.**  For every schedule in which the clock is
never set back:

- once a lock was stored, its row stays as it is until a lock, an unlock or a delete of its key
  reaches the store, or the clock passes its deadline, if it has one;
- a release that is late takes off nothing that is not expired now;
- no read takes off a lock without a deadline. -/
theorem fresh_lock_stays {ι : Type} [DecidableEq ι] (w : Workload ι) (forward : w.Forward) :
    (∀ i n f, w.MakesCall i n (.update f) → (w.rows n f.key).isSome →
      ∀ m, n < m →
        (∀ l, n < l → l < m → ∀ j c, w.MakesCall j l c → ¬ c.Replaces f.key) →
        (noDeadline < f.unlockTime → w.now m ≤ f.unlockTime) → w.rows m f.key = some f) ∧
      (∀ i n k t f, w.MakesCall i n (.expire k t) → w.rows n k = some f →
        f.isExpiredAt (w.now n) = false → w.rows (n + 1) = w.rows n) ∧
      ∀ i n k f, (w.command i).IsRead → w.schedule n = .turn i → w.rows n k = some f →
        f.isIndefinite = true → w.rows (n + 1) k = some f := by
  refine ⟨?_, fun _ _ _ _ _ makes found valid => forward.rows_of_expire makes found valid, ?_⟩
  · intro i n f makes stored m later spared within
    obtain ⟨g, present⟩ := Option.isSome_iff_exists.mp stored
    refine forward.rows_of_le (Workload.rows_of_update makes present) later ?_
      fun l from_n before => spared l from_n before
    refine Bool.eq_false_iff.mpr fun expired => ?_
    obtain ⟨-, deadline, past⟩ := (f.isExpiredAt_iff _).mp expired
    exact Int64.lt_irrefl (Int64.lt_of_lt_of_le past (within deadline))
  · intro i n k f read event found indefinite
    simp only [Feature.isIndefinite, Bool.and_eq_true, beq_iff_eq] at indefinite
    exact Workload.rows_of_read read event found indefinite.2

/-- The release of the race comes after the new lock, and leaves it alone. -/
theorem race_keeps_new_lock :
    Workload.race.Forward ∧ Workload.race.rows 5 ⟨1, "alice", "api"⟩ =
      some ⟨⟨1, "alice", "api"⟩, true, 0, ["fraud"], ["fraud"]⟩ := by
  have forward := Workload.race_forward
  refine ⟨forward, (fresh_lock_stays Workload.race forward).1 false 2 _ ⟨rfl, _, rfl⟩ rfl 5
    (by omega) ?_ fun deadline => absurd deadline (by decide)⟩
  rintro l from_lock before j c makes
  obtain ⟨event, question⟩ := Workload.asks_iff.mp makes
  obtain rfl : j = true := by
    obtain rfl | rfl : l = 3 ∨ l = 4 := by omega
    · cases event
      rfl
    · cases event
      rfl
  exact (Workload.race.looking (i := true) trivial l).spares _ _ c question

end FeatureLock
