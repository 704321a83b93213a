import FeatureLock.Proofs.Lock.Lapse

/-!
# Three views of a lock's time

A feature says whether it is locked without a deadline, whether its lock is expired, and how
long its lock still runs.  With a deadline after the epoch the three tell one story: the time
that is left is what separates the clock from the deadline, and the lock is expired as soon
as that time is over, and not before.

With a deadline before the epoch they do not.  The time that is left runs down to the
deadline and is over then, but the lock never expires.

## Main Definitions

- `Feature.left`: the milliseconds up to a deadline, as a whole number
- `Feature.ViewsAgree`: the three views tell one story

Main statements: `Feature.remainingAt_eq`, the time that is left in whole numbers;
`Feature.views_agree_unless_before_epoch`; and `Feature.views_disagree_before_epoch`.
-/

namespace FeatureLock

open Instant (maxMillis)

namespace Feature

variable {f : Feature} {now t : Instant} {ms : Nat}

/-- The milliseconds from a clock reading to the deadline, negative when it is past. -/
def left (f : Feature) (now : Instant) : Int :=
  f.unlockTime.toInt - now.toInt

/-- **The views of a lock's time agree at a clock reading.**  No time is left exactly if the feature
is open, locked without a deadline or expired, or too much time for an instant to show.  Otherwise
the time that is left is exact, and the lock is expired from the moment on at which it is over. -/
structure ViewsAgree (f : Feature) (now : Instant) : Prop where
  none_iff : f.remainingAt now = none ↔ f.locked = false ∨ f.isIndefinite = true ∨
    f.isExpiredAt now = true ∨ maxMillis < f.left now
  amount : ∀ ms, f.remainingAt now = some ms → (ms : Int) = f.left now
  runs : ∀ ms, f.remainingAt now = some ms →
    ∀ t : Instant, t.toInt ≤ now.toInt + ms → f.isExpiredAt t = false
  lapses : ∀ ms, f.remainingAt now = some ms →
    ∀ t : Instant, now.toInt + ms < t.toInt → f.isExpiredAt t = true

/-! ### The views in whole numbers -/

theorem eq_noDeadline_iff : f.unlockTime = noDeadline ↔ f.unlockTime.toInt = 0 := by
  rw [← Int64.toInt_inj]
  rfl

theorem isIndefinite_iff_toInt :
    f.isIndefinite = true ↔ f.locked = true ∧ f.unlockTime.toInt = 0 := by
  rw [isIndefinite_iff, eq_noDeadline_iff]

theorem isExpiredAt_iff_toInt : f.isExpiredAt t = true ↔
    f.locked = true ∧ 0 < f.unlockTime.toInt ∧ f.unlockTime.toInt < t.toInt := by
  rw [isExpiredAt_iff, Int64.lt_iff_toInt_lt, Int64.lt_iff_toInt_lt]
  rfl

/-- No time is left at once unless the lock has a deadline that is not past. -/
theorem over_iff : (!f.locked || f.unlockTime == noDeadline || decide (f.unlockTime < now)) = true ↔
    ¬ (f.locked = true ∧ f.unlockTime.toInt ≠ 0 ∧ 0 ≤ f.left now) := by
  rw [Bool.or_eq_true, Bool.or_eq_true, Bool.not_eq_true', beq_iff_eq, decide_eq_true_eq,
    eq_noDeadline_iff, Int64.lt_iff_toInt_lt, left, ← Bool.not_eq_true]
  grind

/-- **The time that is left**, in whole numbers. -/
theorem remainingAt_eq (f : Feature) (now : Instant) :
    f.remainingAt now =
      if f.locked = true ∧ f.unlockTime.toInt ≠ 0 ∧ 0 ≤ f.left now ∧ f.left now ≤ maxMillis then
        some (f.left now).toNat
      else none := by
  unfold remainingAt
  by_cases running : f.locked = true ∧ f.unlockTime.toInt ≠ 0 ∧ 0 ≤ f.left now
  · rw [if_neg fun ended => over_iff.mp ended running, ← left]
    obtain ⟨locked, timed, ahead⟩ := running
    by_cases near : f.left now ≤ maxMillis
    · have early : Instant.minMillis ≤ f.left now := Int.le_trans (by decide) ahead
      rw [if_pos ⟨locked, timed, ahead, near⟩]
      cases shown : Instant.ofInt? (f.left now) with
      | none => simp [Instant.ofInt?, early, near] at shown
      | some t => rw [Option.map_some, Instant.toInt_of_ofInt? shown]
    · rw [if_neg fun h => near h.2.2.2, Instant.ofInt?, if_neg fun h => near h.2, Option.map_none]
  · rw [if_pos (over_iff.mpr running), if_neg fun h => running ⟨h.1, h.2.1, h.2.2.1⟩]

theorem remainingAt_eq_none_iff : f.remainingAt now = none ↔
    ¬ (f.locked = true ∧ f.unlockTime.toInt ≠ 0 ∧ 0 ≤ f.left now ∧ f.left now ≤ maxMillis) := by
  rw [remainingAt_eq, ite_eq_right_iff]
  exact ⟨fun nothing running => Option.some_ne_none _ (nothing running),
    fun ended running => absurd running ended⟩

theorem remainingAt_eq_some_iff : f.remainingAt now = some ms ↔
    f.locked = true ∧ f.unlockTime.toInt ≠ 0 ∧ (ms : Int) = f.left now ∧
      f.left now ≤ maxMillis := by
  rw [remainingAt_eq, Option.ite_none_right_eq_some, Option.some_inj]
  grind

/-! ### When the views agree -/

/-- With no deadline or one after the epoch the views agree, and so they do of an open feature and
where the deadline is too far away to count. -/
theorem viewsAgree_of (h : f.locked = false ∨ 0 ≤ f.unlockTime.toInt ∨ maxMillis < f.left now) :
    f.ViewsAgree now where
  none_iff := by
    rw [remainingAt_eq_none_iff, isIndefinite_iff_toInt, isExpiredAt_iff_toInt,
      ← Bool.not_eq_true]
    rw [← Bool.not_eq_true] at h
    grind [left]
  amount ms some := (remainingAt_eq_some_iff.mp some).2.2.1
  runs ms some t within := by
    obtain ⟨-, -, exact, -⟩ := remainingAt_eq_some_iff.mp some
    refine Bool.eq_false_iff.mpr fun expired => ?_
    obtain ⟨-, -, past⟩ := isExpiredAt_iff_toInt.mp expired
    simp only [left] at exact
    omega
  lapses ms some t past := by
    obtain ⟨locked, timed, exact, near⟩ := remainingAt_eq_some_iff.mp some
    have positive : 0 ≤ f.unlockTime.toInt := by
      rcases h with opened | positive | far
      · rw [locked] at opened
        cases opened
      · exact positive
      · exact absurd far (Int.not_lt.mpr near)
    rw [isExpiredAt_iff_toInt]
    simp only [left] at exact
    exact ⟨locked, by omega, by omega⟩

/-- **A lock with a deadline before the epoch never expires**, but its time runs down. -/
theorem views_before_epoch (locked : f.locked = true) (early : f.unlockTime.toInt < 0)
    (near : f.left now ≤ maxMillis) :
    (∀ t, f.isExpiredAt t = false) ∧
      f.remainingAt now = if 0 ≤ f.left now then some (f.left now).toNat else none := by
  constructor
  · refine fun t => Bool.eq_false_iff.mpr fun expired => ?_
    have positive := (isExpiredAt_iff_toInt.mp expired).2.1
    omega
  · rw [remainingAt_eq]
    refine if_congr ?_ rfl rfl
    have timed : f.unlockTime.toInt ≠ 0 := by omega
    exact ⟨fun h => h.2.2.1, fun ahead => ⟨locked, timed, ahead, near⟩⟩

/-- **The views of a lock's time agree unless its deadline lies before the epoch.**  For every
feature, in whatever state, and every clock reading: they agree exactly if the feature is open, or
its deadline is not before the epoch, or the deadline is too far away to count.  In all other cases
the lock never expires, whatever the time, although a time is left for it up to its deadline and
none after it. -/
theorem views_agree_unless_before_epoch (f : Feature) (now : Instant) :
    (f.ViewsAgree now ↔
      f.locked = false ∨ 0 ≤ f.unlockTime.toInt ∨ maxMillis < f.left now) ∧
    (f.locked = true → f.unlockTime.toInt < 0 → f.left now ≤ maxMillis →
      (∀ t, f.isExpiredAt t = false) ∧
        f.remainingAt now = if 0 ≤ f.left now then some (f.left now).toNat else none) := by
  refine ⟨⟨fun agree => ?_, viewsAgree_of⟩, views_before_epoch⟩
  by_contra broken
  rw [not_or, not_or, Bool.not_eq_false, Int.not_le, Int.not_lt] at broken
  obtain ⟨locked, early, near⟩ := broken
  obtain ⟨never, remaining⟩ := views_before_epoch locked early near
  by_cases ahead : 0 ≤ f.left now
  · -- the time that is left runs out before the epoch, so the lock would be expired at the epoch
    rw [if_pos ahead] at remaining
    have past : now.toInt + (f.left now).toNat < noDeadline.toInt := by
      have zero : noDeadline.toInt = 0 := rfl
      simp only [left] at ahead ⊢
      omega
    have expired := agree.lapses _ remaining noDeadline past
    rw [never] at expired
    cases expired
  · rw [if_neg ahead] at remaining
    rcases agree.none_iff.mp remaining with opened | indefinite | expired | far
    · rw [locked] at opened
      cases opened
    · have zero := (isIndefinite_iff_toInt.mp indefinite).2
      omega
    · rw [never] at expired
      cases expired
    · omega

/-- Five milliseconds are left of a lock until just before the epoch, and it never expires. -/
theorem early_lock_runs_down :
    let f : Feature := ⟨⟨1, "alice", "api"⟩, true, -5, ["fraud"], ["fraud"]⟩
    (∀ t, f.isExpiredAt t = false) ∧ f.remainingAt (-10) = some 5 :=
  (views_agree_unless_before_epoch ⟨⟨1, "alice", "api"⟩, true, -5, ["fraud"], ["fraud"]⟩ (-10)).2
    (by decide) (by decide) (by decide)

/-- **The views disagree on a lock until just before the epoch.**  At the epoch no time is left of
it, and yet it is neither open nor indefinite nor expired.  And five milliseconds are left of it ten
milliseconds before the epoch, but it is not expired when these are over. -/
theorem views_disagree_before_epoch :
    let f : Feature := ⟨⟨1, "alice", "api"⟩, true, -5, ["fraud"], ["fraud"]⟩
    (f.remainingAt 0 = none ∧ f.locked = true ∧ f.isIndefinite = false ∧
      f.isExpiredAt 0 = false ∧ f.left 0 = -5) ∧
    f.remainingAt (-10) = some 5 ∧ ¬ f.ViewsAgree 0 ∧ ¬ f.ViewsAgree (-10) := by
  refine ⟨by decide, by decide, fun agree => ?_, fun agree => ?_⟩
  · exact absurd (agree.none_iff.mp (by decide)) (by decide)
  · exact absurd (agree.lapses 5 (by decide) 0 (by decide)) (by decide)

end Feature

end FeatureLock
