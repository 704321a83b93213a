import FeatureLock.Proofs.Lock.Workload

/-!
# Operations side by side take effect one at a time

Whatever the schedule, an operation answers and changes the store as if it were
done in one step, at the moment of its last call.  A read is the interesting
case: it searches, reads the clock, releases the row it found expired and may
search once more, while others lock, unlock, delete and add the same feature.
What it answers after a release comes from its first search, not from the store;
it is right all the same, since a released row is the fresh feature of its key.

## Main Definitions

- `Workload.Silent`, `Untimed`, `ReadsOnly`, `LatestCall`: what an operation has
  asked before a moment
- `Workload.Timely`: an operation that needs the time reads it
- `Workload.Story`: what is known of an operation that stands at a stage

Main statements: `Workload.story`, the story holds at every moment, and
`operations_take_effect_at_last_call`.

## Design Notes

The story is told by the operation's own questions alone.  Of the others it is
known only that every row has the key under which it is stored.
-/

namespace FeatureLock

namespace Workload

variable {ι : Type} [DecidableEq ι]

/-! ### What an operation has asked -/

/-- An operation has made no call before a moment. -/
def Silent (w : Workload ι) (i : ι) (n : Nat) : Prop :=
  ∀ m < n, ∀ c, ¬ w.MakesCall i m c

/-- An operation has not read the clock before a moment. -/
def Untimed (w : Workload ι) (i : ι) (n : Nat) : Prop :=
  ∀ m < n, ¬ w.ReadsClock i m

/-- Whenever an operation has read the clock before a moment, it read one instant. -/
def ReadsOnly (w : Workload ι) (i : ι) (n : Nat) (t : Instant) : Prop :=
  ∀ m < n, w.ReadsClock i m → w.now m = t

/-- The last call that an operation has made before a moment. -/
def LatestCall (w : Workload ι) (i : ι) (n m : Nat) : Prop :=
  m < n ∧ (∃ c, w.MakesCall i m c) ∧ ∀ m', m < m' → m' < n → ∀ c, ¬ w.MakesCall i m' c

variable {w : Workload ι} {i : ι} {n m : Nat} {t : Instant}

theorem Untimed.readsOnly (h : w.Untimed i n) (t : Instant) : w.ReadsOnly i n t :=
  fun m lt reads => absurd reads (h m lt)

theorem Silent.succ (h : w.Silent i n) (now : ∀ c, ¬ w.MakesCall i n c) : w.Silent i (n + 1) :=
  Nat.forall_lt_succ_right.mpr ⟨h, now⟩

theorem Untimed.succ (h : w.Untimed i n) (now : ¬ w.ReadsClock i n) : w.Untimed i (n + 1) :=
  Nat.forall_lt_succ_right.mpr ⟨h, now⟩

theorem ReadsOnly.succ (h : w.ReadsOnly i n t) (now : ¬ w.ReadsClock i n) :
    w.ReadsOnly i (n + 1) t :=
  Nat.forall_lt_succ_right.mpr ⟨h, fun reads => absurd reads now⟩

/-- The first clock reading of an operation. -/
theorem Untimed.readsOnly_now (h : w.Untimed i n) : w.ReadsOnly i (n + 1) (w.now n) :=
  Nat.forall_lt_succ_right.mpr ⟨h.readsOnly (w.now n), fun _ => rfl⟩

theorem LatestCall.succ (h : w.LatestCall i n m) (now : ∀ c, ¬ w.MakesCall i n c) :
    w.LatestCall i (n + 1) m := by
  obtain ⟨lt, makes, none⟩ := h
  refine ⟨Nat.lt_succ_of_lt lt, makes, fun m' after before => ?_⟩
  rcases Nat.lt_succ_iff_lt_or_eq.mp before with before | rfl
  · exact none m' after before
  · exact now

theorem latestCall_self {c : Call} (makes : w.MakesCall i n c) : w.LatestCall i (n + 1) n :=
  ⟨Nat.lt_succ_self n, ⟨c, makes⟩, fun _ after before =>
    absurd (Nat.lt_of_lt_of_le after (Nat.le_of_lt_succ before)) (Nat.lt_irrefl n)⟩

/-- Where one question is asked, no other is. -/
theorem Asks.eq {q q' : Ask} (h : w.Asks i n q) (h' : w.Asks i n q') : q = q' := by
  rw [asks_iff] at h h'
  exact Option.some_inj.mp (h.2.symm.trans h'.2)

/-! ### The story of an operation -/

/-- A command that looks at a feature, whatever the time. -/
def Looks (w : Workload ι) (i : ι) : Prop :=
  (w.command i).IsRead ∧
    ∀ t, w.service.effect t (w.command i) = .look (w.command i).key (w.command i).report

/-- An operation that needs the time for its result reads the clock: a lock for a duration, or a
read that reports a feature. -/
def Timely (w : Workload ι) (i : ι) (result : Except Failure Reply) : Prop :=
  (w.command i).LocksForDuration ∨ (w.command i).IsRead ∧ (∃ reply, result = .ok reply) →
    ∃ m, w.ReadsClock i m

theorem timely_of_timeless (timeless : (w.command i).IsTimeless) (result : Except Failure Reply) :
    w.Timely i result :=
  fun needs => (needs.elim timeless.2 fun read => timeless.1 read.1).elim

/-- A command came to a result in accordance with the map, at its last call. -/
def TookEffect (w : Workload ι) (i : ι) (n : Nat) (t : Instant)
    (result : Except Failure Reply) : Prop :=
  w.Timely i result ∧ ∃ m, w.LatestCall i n m ∧
    w.service.TakesEffect t (w.command i) (w.rows m) result (w.rows (m + 1))

/-- A command was refused, without any call: at the instant that was read, or at every instant. -/
def WasRefused (w : Workload ι) (i : ι) (n : Nat) (t : Instant)
    (result : Except Failure Reply) : Prop :=
  w.Silent i n ∧ ∃ why, result = .error (.illegalArgument why) ∧
    w.service.effect t (w.command i) = .refuse why ∧
    ((∃ m, w.ReadsClock i m) ∨ ∀ t', w.service.effect t' (w.command i) = .refuse why)

/-- **What is known of an operation that stands at a stage.** -/
def Story (w : Workload ι) (i : ι) (n : Nat) : Stage → Prop
  | .searching => w.Silent i n ∧ w.Untimed i n ∧ w.Looks i
  | .judging f =>
    w.Untimed i n ∧ w.Looks i ∧
      ∃ m, w.LatestCall i n m ∧ w.rows m (w.command i).key = some f ∧ w.rows (m + 1) = w.rows m
  | .releasing f t =>
    w.ReadsOnly i n t ∧ (∃ m, w.ReadsClock i m) ∧ w.Looks i ∧ f.key = (w.command i).key
  | .searchingAgain => (∃ t, w.ReadsOnly i n t) ∧ (∃ m, w.ReadsClock i m) ∧ w.Looks i
  | .replacing f =>
    w.Silent i n ∧ (∀ result, w.Timely i result) ∧
      ∃ t, w.ReadsOnly i n t ∧ w.service.effect t (w.command i) = .put f
  | .finished result =>
    ∃ t, w.ReadsOnly i n t ∧ (w.TookEffect i n t result ∨ w.WasRefused i n t result)
  | .timing d reasons =>
    w.Silent i n ∧ w.Untimed i n ∧
      ∀ t, (Stage.timing d reasons).step (w.command i) t = w.service.effect t (w.command i)
  | st =>
    w.Silent i n ∧ w.Untimed i n ∧ (∀ result, w.Timely i result) ∧
      ∀ t, st.step (w.command i) t = w.service.effect t (w.command i)

theorem silent_zero (w : Workload ι) (i : ι) : w.Silent i 0 :=
  fun m lt => absurd lt (Nat.not_lt_zero m)

theorem untimed_zero (w : Workload ι) (i : ι) : w.Untimed i 0 :=
  fun m lt => absurd lt (Nat.not_lt_zero m)

/-- The story as it begins. -/
theorem story_zero (w : Workload ι) (i : ι) : w.Story i 0 (w.stage i 0) := by
  have opens := Stage.opens_first w.service (w.command i)
  have step := Stage.step_first w.service (w.command i)
  have silent := w.silent_zero i
  have untimed := w.untimed_zero i
  rw [stage]
  -- all that counts of the first stage is what it opens with and what is left to do there
  generalize Stage.first w.service (w.command i) = st at opens step ⊢
  cases opens with
  | adding timeless => exact ⟨silent, untimed, timely_of_timeless timeless, step⟩
  | searching read => exact ⟨silent, untimed, read, fun t => (step t).symm⟩
  | timing d reasons => exact ⟨silent, untimed, step⟩
  | replacing timeless f =>
    exact ⟨silent, timely_of_timeless timeless, w.start, untimed.readsOnly _, (step _).symm⟩
  | deleting timeless => exact ⟨silent, untimed, timely_of_timeless timeless, step⟩
  | refused why =>
    have refused := fun t => (step t).symm
    exact ⟨w.start, untimed.readsOnly _, .inr ⟨silent, why, rfl, refused _, .inr refused⟩⟩

/-- The story does not change while the operation waits. -/
theorem Story.wait {st : Stage} (story : w.Story i n st) (waits : ∀ q, ¬ w.Asks i n q) :
    w.Story i (n + 1) st := by
  have call : ∀ c, ¬ w.MakesCall i n c := fun c => waits (.call c)
  have clock : ¬ w.ReadsClock i n := waits .clock
  cases st with
  | searching =>
    obtain ⟨silent, untimed, looks⟩ := story
    exact ⟨silent.succ call, untimed.succ clock, looks⟩
  | judging f =>
    obtain ⟨untimed, looks, m, latest, found, same⟩ := story
    exact ⟨untimed.succ clock, looks, m, latest.succ call, found, same⟩
  | releasing f t =>
    obtain ⟨reads, looks⟩ := story
    exact ⟨reads.succ clock, looks⟩
  | searchingAgain =>
    obtain ⟨⟨t, reads⟩, looks⟩ := story
    exact ⟨⟨t, reads.succ clock⟩, looks⟩
  | replacing f =>
    obtain ⟨silent, timely, t, reads, effect⟩ := story
    exact ⟨silent.succ call, timely, t, reads.succ clock, effect⟩
  | finished result =>
    obtain ⟨t, reads, ⟨timely, m, latest, takes⟩ | ⟨silent, why⟩⟩ := story
    · exact ⟨t, reads.succ clock, .inl ⟨timely, m, latest.succ call, takes⟩⟩
    · exact ⟨t, reads.succ clock, .inr ⟨silent.succ call, why⟩⟩
  | _ =>
    obtain ⟨silent, untimed, step⟩ := story
    exact ⟨silent.succ call, untimed.succ clock, step⟩

/-- An operation that makes its step on the map in one call is done with it. -/
theorem story_ending {c : Call} {step : Contents.Step} (makes : w.MakesCall i n c)
    (reads : w.ReadsOnly i n t) (timely : w.Timely i (step (w.rows n)).1)
    (effect : w.service.effect t (w.command i) = step)
    (turn : (w.stage i n).turn (w.command i) ⟨w.rows n, w.now n⟩ =
      Stage.ending step (w.rows n)) :
    w.Story i (n + 1) (w.stage i (n + 1)) := by
  have event := makes.1
  have clock : ¬ w.ReadsClock i n := fun h => nomatch makes.eq h
  rw [stage_of_turn event, turn]
  refine ⟨t, reads.succ clock, .inl ⟨timely, n, latestCall_self makes, .inl ?_⟩⟩
  rw [rows_of_turn event, turn, effect]
  rfl

/-! ### The turns of a story -/

section Turns

variable (event : w.schedule n = .turn i)

include event

theorem asks_question {q : Ask} (question : (w.stage i n).question (w.command i) = some q) :
    w.Asks i n q :=
  asks_iff.mpr ⟨event, question⟩

theorem Story.turn_searching (stands : w.stage i n = .searching)
    (story : w.Story i n .searching) : w.Story i (n + 1) (w.stage i (n + 1)) := by
  obtain ⟨silent, untimed, looks⟩ := story
  have call : w.MakesCall i n _ := asks_question event (by rw [stands]; rfl)
  have clock : ¬ w.ReadsClock i n := fun h => nomatch call.eq h
  cases found : w.rows n (w.command i).key with
  | none =>
    refine story_ending call (untimed.readsOnly w.start) ?_ (looks.2 w.start) ?_
    · -- nothing was found that the time could matter for
      rintro (locks | ⟨-, reply, ok⟩)
      · exact absurd locks looks.1.not_locksForDuration
      · simp only [Contents.Step.look, found] at ok
        cases ok
    · rw [stands]
      simp only [Stage.turn, Stage.ending, Contents.Step.look, found]
  | some f =>
    have next := stage_of_turn event
    have rows := rows_of_turn event
    simp only [stands, Stage.turn, found] at next rows
    rw [next]
    exact ⟨untimed.succ clock, looks, n, latestCall_self call, found, rows⟩

theorem Story.turn_judging {f : Feature} (stands : w.stage i n = .judging f)
    (story : w.Story i n (.judging f)) : w.Story i (n + 1) (w.stage i (n + 1)) := by
  obtain ⟨untimed, looks, m, latest, found, same⟩ := story
  have clock : w.ReadsClock i n := asks_question event (by rw [stands]; rfl)
  have call : ∀ c, ¬ w.MakesCall i n c := fun c h => nomatch clock.eq h
  have next := stage_of_turn event
  simp only [stands, Stage.turn] at next
  by_cases expired : f.isExpiredAt (w.now n) = true
  · rw [if_pos expired] at next
    rw [next]
    exact ⟨untimed.readsOnly_now, ⟨n, clock⟩, looks, w.key_of_rows found⟩
  · -- the last call was the search, and it changed nothing: what it found is still its answer
    rw [if_neg expired] at next
    rw [next]
    refine ⟨_, untimed.readsOnly_now, .inl ⟨fun _ => ⟨n, clock⟩, m, latest.succ call, .inl ?_⟩⟩
    rw [looks.2, Contents.Step.look, found, same]

theorem Story.turn_releasing {f : Feature} (stands : w.stage i n = .releasing f t)
    (story : w.Story i n (.releasing f t)) : w.Story i (n + 1) (w.stage i (n + 1)) := by
  obtain ⟨reads, timed, looks, key⟩ := story
  have call : w.MakesCall i n _ := asks_question event (by rw [stands]; rfl)
  have clock : ¬ w.ReadsClock i n := fun h => nomatch call.eq h
  have next := stage_of_turn event
  have rows := rows_of_turn event
  -- somebody else took the lock off, put another in its place or deleted the feature
  have again : w.stage i (n + 1) = .searchingAgain → w.Story i (n + 1) (w.stage i (n + 1)) := by
    intro lost
    rw [lost]
    exact ⟨⟨t, reads.succ clock⟩, timed, looks⟩
  cases found : w.rows n (w.command i).key with
  | none =>
    simp only [stands, Stage.turn, found] at next
    exact again next
  | some g =>
    simp only [stands, Stage.turn, found] at next rows
    by_cases expired : g.isExpiredAt t = true
    · -- what the first search found is as good as the row: without its lock it is fresh
      simp only [expired, if_true] at next rows
      rw [next]
      refine ⟨t, reads.succ clock, .inl ⟨fun _ => timed, n, latestCall_self call, .inr
        ⟨looks.1, g, found, expired, ?_⟩⟩⟩
      rw [looks.2, rows, Contents.Step.look, Function.update_self, f.unlocked_eq_fresh, key]
    · simp only [expired] at next
      exact again next

theorem Story.turn_timing {d : Duration} {reasons : LockReasons}
    (stands : w.stage i n = .timing d reasons) (story : w.Story i n (.timing d reasons)) :
    w.Story i (n + 1) (w.stage i (n + 1)) := by
  obtain ⟨silent, untimed, step⟩ := story
  have clock : w.ReadsClock i n := asks_question event (by rw [stands]; rfl)
  have call : ∀ c, ¬ w.MakesCall i n c := fun c h => nomatch clock.eq h
  have next := stage_of_turn event
  have effect := step (w.now n)
  simp only [stands, Stage.turn, Stage.step] at next effect
  cases deadline : (w.now n).after? d with
  | some t =>
    rw [deadline] at next effect
    rw [next]
    exact ⟨silent.succ call, fun _ _ => ⟨n, clock⟩, w.now n, untimed.readsOnly_now, effect.symm⟩
  | none =>
    rw [deadline] at next effect
    rw [next]
    exact ⟨w.now n, untimed.readsOnly_now,
      .inr ⟨silent.succ call, _, rfl, effect.symm, .inl ⟨n, clock⟩⟩⟩

/-- **A turn of an operation continues its story.** -/
theorem Story.turn (story : w.Story i n (w.stage i n)) :
    w.Story i (n + 1) (w.stage i (n + 1)) := by
  have asks := fun {q} => asks_question (q := q) event
  cases stands : w.stage i n with
  | searching => exact (stands ▸ story).turn_searching event stands
  | judging f => exact (stands ▸ story).turn_judging event stands
  | releasing f t => exact (stands ▸ story).turn_releasing event stands
  | timing d reasons => exact (stands ▸ story).turn_timing event stands
  | searchingAgain =>
    rw [stands] at story asks
    obtain ⟨⟨t, reads⟩, timed, looks⟩ := story
    exact story_ending (asks rfl) reads (fun _ => timed) (looks.2 t) (by rw [stands]; rfl)
  | replacing f =>
    rw [stands] at story asks
    obtain ⟨silent, timely, t, reads, effect⟩ := story
    exact story_ending (asks rfl) reads (timely _) effect (by rw [stands]; rfl)
  | finished result =>
    rw [stands] at story
    rw [stage_of_finished stands n.le_succ]
    exact story.wait fun q h => nomatch stands ▸ (asks_iff.mp h).2
  | _ =>
    rw [stands] at story asks
    obtain ⟨silent, untimed, timely, step⟩ := story
    exact story_ending (asks rfl) (untimed.readsOnly w.start) (timely _) (step w.start).symm
      (by rw [stands]; rfl)

end Turns

/-- **The story of every operation holds at every moment.** -/
theorem story (w : Workload ι) (i : ι) (n : Nat) : w.Story i n (w.stage i n) := by
  induction n with
  | zero => exact w.story_zero i
  | succ n ih =>
    by_cases event : w.schedule n = .turn i
    · exact ih.turn event
    · rw [stage_of_not_turn event]
      exact ih.wait fun q h => event h.1

/-! ### After the end -/

section Finished

variable {result : Except Failure Reply} (finished : w.stage i n = .finished result)

include finished

/-- A finished operation asks nothing. -/
theorem not_asks_of_finished (le : n ≤ m) (q : Ask) : ¬ w.Asks i m q := by
  intro asks
  have question := (asks_iff.mp asks).2
  rw [stage_of_finished finished le] at question
  cases question

theorem LatestCall.isLastCall (h : w.LatestCall i n m) : w.IsLastCall i m := by
  obtain ⟨-, makes, none⟩ := h
  refine ⟨makes, fun m' after c => ?_⟩
  rcases Nat.lt_or_ge m' n with before | le
  · exact none m' after before c
  · exact not_asks_of_finished finished le _

theorem Silent.not_makesCall (h : w.Silent i n) (m : Nat) (c : Call) : ¬ w.MakesCall i m c := by
  rcases Nat.lt_or_ge m n with before | le
  · exact h m before c
  · exact not_asks_of_finished finished le _

theorem ReadsOnly.now_eq (h : w.ReadsOnly i n t) (m : Nat) (reads : w.ReadsClock i m) :
    w.now m = t := by
  rcases Nat.lt_or_ge m n with before | le
  · exact h m before reads
  · exact absurd reads (not_asks_of_finished finished le _)

end Finished

/-- Only the last call of an operation changes what is stored. -/
theorem answers_of_rows_ne (changed : w.rows (n + 1) ≠ w.rows n) :
    ∃ i result, w.Answers i result ∧ w.IsLastCall i n := by
  cases event : w.schedule n with
  | setClock t => exact absurd (rows_of_setClock event) changed
  | turn i =>
    rw [rows_of_turn event] at changed
    obtain ⟨⟨c, question⟩, result, finished⟩ := Stage.finished_of_turn_rows_ne changed
    have next := (stage_of_turn event).trans finished
    have makes : w.MakesCall i n c := asks_question event question
    exact ⟨i, result, answers_iff.mpr ⟨n + 1, next⟩, (latestCall_self makes).isLastCall next⟩

/-! ### Coming to a result -/

theorem left_stage_le (w : Workload ι) (i : ι) {n m : Nat} (le : n ≤ m) :
    (w.stage i m).left ≤ (w.stage i n).left := by
  induction le with
  | refl => exact Nat.le_refl _
  | @step m _ ih =>
    refine Nat.le_trans ?_ ih
    by_cases event : w.schedule m = .turn i
    · rw [stage_of_turn event]
      exact Nat.le_trans (Stage.left_turn_le _ _ _) (Nat.sub_le _ _)
    · exact Nat.le_of_eq (congrArg Stage.left (stage_of_not_turn event))

theorem left_stage_of_turn {k : Nat} (before : (w.stage i n).left ≤ k + 1)
    (event : w.schedule n = .turn i) (later : n < m) : (w.stage i m).left ≤ k := by
  have turned := Stage.left_turn_le (w.command i) (w.stage i n) ⟨w.rows n, w.now n⟩
  rw [← stage_of_turn event] at turned
  have onward := w.left_stage_le i (show n + 1 ≤ m from later)
  omega

/-- An operation that has had four turns has come to a result. -/
theorem answers_of_four_turns {a b c d : Nat} (ab : a < b) (bc : b < c) (cd : c < d)
    (turns : ∀ n ∈ [a, b, c, d], w.schedule n = .turn i) : ∃ result, w.Answers i result := by
  -- four questions are left at most, and each turn takes one
  have first : (w.stage i b).left ≤ 3 :=
    left_stage_of_turn (Stage.left_le _) (turns a (by simp)) ab
  have second : (w.stage i c).left ≤ 2 := left_stage_of_turn first (turns b (by simp)) bc
  have third : (w.stage i d).left ≤ 1 := left_stage_of_turn second (turns c (by simp)) cd
  have fourth : (w.stage i (d + 1)).left ≤ 0 :=
    left_stage_of_turn third (turns d (by simp)) d.lt_succ_self
  cases stands : w.stage i (d + 1) with
  | finished result => exact ⟨result, answers_iff.mpr ⟨d + 1, stands⟩⟩
  | _ =>
    rw [stands] at fourth
    exact absurd fourth (by simp only [Stage.left]; omega)

end Workload

/-- **Operations side by side take effect one at a time**, each at the moment of its last call.  For
every schedule of any number of operations over either kind of store:

- an operation that comes to a result has taken effect on the map of features with that result, from
  the rows right before its last call to the rows right after it, at the instant that it read; or it
  was refused and made no call;
- a lock for a duration that took effect has read the clock, and so has a read that reports a
  feature, as one does that took off a lock; what was refused without reading the clock is refused
  at every instant;
- what is stored changes at the last call of an operation only;
- four turns bring every operation to a result. -/
theorem operations_take_effect_at_last_call {ι : Type} [DecidableEq ι] (w : Workload ι) :
    (∀ i result, w.Answers i result →
      ∃ t, (∀ n, w.ReadsClock i n → w.now n = t) ∧
        (((∃ n, w.IsLastCall i n ∧
              w.service.TakesEffect t (w.command i) (w.rows n) result (w.rows (n + 1))) ∧
            ((w.command i).LocksForDuration ∨ (w.command i).IsRead ∧ (∃ reply, result = .ok reply) →
              ∃ n, w.ReadsClock i n)) ∨
          ((∀ n c, ¬ w.MakesCall i n c) ∧ ∃ why, result = .error (.illegalArgument why) ∧
            w.service.effect t (w.command i) = .refuse why ∧
            ((∃ n, w.ReadsClock i n) ∨ ∀ t', w.service.effect t' (w.command i) = .refuse why)))) ∧
      (∀ n, w.rows (n + 1) ≠ w.rows n → ∃ i result, w.Answers i result ∧ w.IsLastCall i n) ∧
      ∀ i a b c d, a < b → b < c → c < d → (∀ n ∈ [a, b, c, d], w.schedule n = .turn i) →
        ∃ result, w.Answers i result := by
  refine ⟨?_, fun n => Workload.answers_of_rows_ne, fun i a b c d => Workload.answers_of_four_turns⟩
  intro i result answers
  obtain ⟨n, finished⟩ := Workload.answers_iff.mp answers
  have story := w.story i n
  rw [finished] at story
  obtain ⟨t, reads, ⟨timely, m, latest, takes⟩ | ⟨silent, refused⟩⟩ := story
  · exact ⟨t, reads.now_eq finished, .inl ⟨⟨m, latest.isLastCall finished, takes⟩, timely⟩⟩
  · exact ⟨t, reads.now_eq finished, .inr ⟨silent.not_makesCall finished, refused⟩⟩

/-- The read of the race reports the new lock, in accordance with the rows at its second search, and
has read the clock. -/
theorem race_read_takes_effect :
    ∃ t n m, Workload.race.IsLastCall true n ∧
      Workload.race.service.TakesEffect t (.read ⟨1, "alice", "api"⟩) (Workload.race.rows n)
        (.ok (.feature ⟨⟨1, "alice", "api"⟩, true, 0, ["fraud"], ["fraud"]⟩))
        (Workload.race.rows (n + 1)) ∧
      Workload.race.ReadsClock true m ∧ Workload.race.now m = t := by
  have answers : Workload.race.Answers true
      (.ok (.feature ⟨⟨1, "alice", "api"⟩, true, 0, ["fraud"], ["fraud"]⟩)) := ⟨5, rfl⟩
  obtain ⟨t, only, ⟨⟨n, last, takes⟩, timely⟩ | ⟨-, why, refused, -⟩⟩ :=
    (operations_take_effect_at_last_call Workload.race).1 true _ answers
  · obtain ⟨m, reads⟩ := timely (.inr ⟨trivial, _, rfl⟩)
    exact ⟨t, n, m, last, takes, reads, only m reads⟩
  · cases refused

end FeatureLock
