import FeatureLock.Clocks
import Mathlib.Algebra.Order.BigOperators.Group.List
import Mathlib.Algebra.Order.Ring.Int

/-!
# Moving clocks on

A clock that is only moved on ends at the time it began with and the sum of all durations,
as far as an instant can show it.  It does not matter through which handles this was done,
or in which order.

Each duration counts for no more milliseconds than an instant can show.  So a clock that
stands before the epoch falls short when it is moved on by more than that, and moving it on
by a sum is then not the same as moving it on by the parts.

## Main Definitions

- `Duration.nanoseconds`, `Duration.IsWhole`: durations as sums, and those of whole
  milliseconds
- `Duration.span`, `Duration.reach`: the milliseconds of many durations, and those that
  count
- `Clocks.Step.IsForward`: the steps that do not set a clock
- `Clocks.moves`: the durations that a clock is moved on by in a run

Main statements: `Instant.toInt_foldl_advance`, many moves in whole numbers;
`Clocks.time_run`, what a run comes to; `Clocks.advances_add_up`; and
`Clocks.advance_before_epoch_falls_short`.
-/

namespace FeatureLock

open Instant (maxMillis)

/-! ### Durations -/

namespace Duration

variable {ds : List Duration}

/-- A duration in nanoseconds. -/
def nanoseconds (d : Duration) : Nat :=
  d.secs.toNat * 1000000000 + d.nanos.val

/-- A duration of whole milliseconds. -/
def IsWhole (d : Duration) : Prop :=
  d.nanos.val % 1000000 = 0

instance (d : Duration) : Decidable d.IsWhole :=
  inferInstanceAs (Decidable (_ = _))

/-- The milliseconds of many durations. -/
def span (ds : List Duration) : Nat :=
  (ds.map millis).sum

/-- The milliseconds that count, of many durations. -/
def reach (ds : List Duration) : Int :=
  (ds.map counted).sum

theorem span_cons (d : Duration) (ds : List Duration) : span (d :: ds) = d.millis + span ds :=
  List.sum_cons

theorem reach_cons (d : Duration) (ds : List Duration) : reach (d :: ds) = d.counted + reach ds :=
  List.sum_cons

theorem reach_nonneg (ds : List Duration) : 0 ≤ reach ds := by
  refine List.sum_nonneg fun n mem => ?_
  obtain ⟨d, -, rfl⟩ := List.mem_map.mp mem
  exact d.counted_nonneg

theorem reach_le (ds : List Duration) : reach ds ≤ span ds := by
  induction ds with
  | nil => exact Int.le_refl _
  | cons d ds ih =>
    rw [reach_cons, span_cons, counted, Int.natCast_add]
    omega

/-- **What counts of the parts is cut off where the sum is.** -/
theorem min_reach (ds : List Duration) : min maxMillis (reach ds) = min maxMillis (span ds) := by
  induction ds with
  | nil => rfl
  | cons d ds ih =>
    have positive := reach_nonneg ds
    rw [reach_cons, span_cons, counted, Int.natCast_add]
    omega

theorem millis_eq (d : Duration) : d.millis = d.nanoseconds / 1000000 := by
  simp only [millis, nanoseconds]
  omega

theorem IsWhole.nanoseconds_eq {d : Duration} (whole : d.IsWhole) :
    d.nanoseconds = d.millis * 1000000 := by
  simp only [IsWhole] at whole
  simp only [millis, nanoseconds]
  omega

theorem nanoseconds_sum (whole : ∀ d ∈ ds, d.IsWhole) :
    (ds.map nanoseconds).sum = span ds * 1000000 := by
  induction ds with
  | nil => rfl
  | cons d ds ih =>
    rw [List.forall_mem_cons] at whole
    rw [List.map_cons, List.sum_cons, whole.1.nanoseconds_eq, ih whole.2, span_cons, Nat.add_mul]

/-- **The milliseconds of whole durations add up.** -/
theorem millis_eq_span (whole : ∀ d ∈ ds, d.IsWhole) {total : Duration}
    (sum : total.nanoseconds = (ds.map nanoseconds).sum) : total.millis = span ds := by
  rw [millis_eq, sum, nanoseconds_sum whole, Nat.mul_div_cancel _ (by decide)]

end Duration

namespace Instant

/-- **Many moves are one by all that counts of them**, cut off at the latest instant. -/
theorem toInt_foldl_advance (now : Instant) (ds : List Duration) :
    (ds.foldl advance now).toInt = min maxMillis (now.toInt + Duration.reach ds) := by
  induction ds generalizing now with
  | nil =>
    have late := now.le_maxMillis
    rw [List.foldl_nil, Duration.reach, List.map_nil, List.sum_nil, Int.add_zero]
    exact (Int.min_eq_right late).symm
  | cons d ds ih =>
    have forward := Duration.reach_nonneg ds
    rw [List.foldl_cons, ih, toInt_advance, Duration.reach_cons]
    omega

/-- The sum of an instant and a duration is reached, or the latest instant if it lies beyond,
exactly if the instant is not before the epoch or the duration is not longer than an instant
shows. -/
theorem toInt_advance_eq_iff (now : Instant) (d : Duration) :
    (now.advance d).toInt = min maxMillis (now.toInt + d.millis) ↔
      0 ≤ now.toInt ∨ d.millis ≤ maxMillis := by
  rw [toInt_advance, Duration.counted, maxMillis]
  omega

/-- **Many moves are one by the sum**, unless they begin before the epoch and are longer than an
instant shows. -/
theorem foldl_advance_eq {now : Instant} {ds : List Duration} {total : Duration}
    (sum : total.millis = Duration.span ds)
    (within : 0 ≤ now.toInt ∨ total.millis ≤ maxMillis) :
    ds.foldl advance now = now.advance total := by
  have cut := Duration.min_reach ds
  have less := Duration.reach_le ds
  rw [sum] at within
  rw [← Int64.toInt_inj, toInt_foldl_advance, toInt_advance, Duration.counted, sum]
  omega

end Instant

/-! ### Clocks -/

namespace Clocks

variable {n : Nat} {c : Clocks n} {i : Fin n} {h : Nat} {step : Step} {steps : List Step}

/-- The step does not set a clock. -/
def Step.IsForward : Step → Prop
  | .set .. => False
  | _ => True

/-- The durations that a step moves a clock on by: one, or none. -/
def movedBy (c : Clocks n) (i : Fin n) : Step → List Duration
  | .advance h d => if c.clock? h = some i then [d] else []
  | _ => []

/-- **The durations that a clock is moved on by in a run**, through any of the handles that it has
by then. -/
def moves (c : Clocks n) (i : Fin n) : List Step → List Duration
  | [] => []
  | step :: steps => c.movedBy i step ++ (c.perform step).moves i steps

/-! Handles stay with their clocks. -/

theorem handles_perform (c : Clocks n) (step : Step) : c.handles <+: (c.perform step).handles := by
  cases step with
  | clone h => exact List.prefix_append _ _
  | set h now => exact c.handles_change h _ ▸ List.prefix_refl _
  | advance h d => exact c.handles_change h _ ▸ List.prefix_refl _

theorem handles_run (c : Clocks n) (steps : List Step) : c.handles <+: (c.run steps).handles := by
  induction steps generalizing c with
  | nil => exact List.prefix_refl _
  | cons step steps ih => exact (c.handles_perform step).trans (ih (c.perform step))

theorem clock?_run (own : c.clock? h = some i) (steps : List Step) :
    (c.run steps).clock? h = some i := by
  obtain ⟨more, grown⟩ := c.handles_run steps
  obtain ⟨made, -⟩ := List.getElem?_eq_some_iff.mp own
  rw [clock?, ← grown, List.getElem?_append_left made]
  exact own

/-- **One step** moves each clock on by the durations that are meant for it. -/
theorem time_perform (forward : step.IsForward) :
    (c.perform step).time i = (c.movedBy i step).foldl Instant.advance (c.time i) := by
  cases step with
  | clone h => rfl
  | set h now => exact forward.elim
  | advance h d =>
    rw [perform, time_change, movedBy]
    split <;> rfl

/-- **A run** moves each clock on by the durations that are meant for it. -/
theorem time_run (forward : ∀ step ∈ steps, step.IsForward) :
    (c.run steps).time i = (c.moves i steps).foldl Instant.advance (c.time i) := by
  induction steps generalizing c with
  | nil => rfl
  | cons step steps ih =>
    rw [List.forall_mem_cons] at forward
    rw [moves, List.foldl_append, ← time_perform forward.1]
    exact ih forward.2

/-- The handles of a clock show its time. -/
theorem time?_of_clock? (own : c.clock? h = some i) : c.time? h = some (c.time i) := by
  rw [time?, own, Option.map_some]

/-- **Advances of a clock add up.**  Take any clocks and the handles to them, and one of the clocks.

- An advance through any of its handles never moves the clock back.  It brings it to the sum in
  whole numbers, or to the latest instant if the sum lies beyond, exactly if the clock does not
  stand before the epoch or the duration is not longer than an instant shows.
- Whichever handles are cloned and advanced in a run, each handle of the clock, old or new, shows
  the time it began with and all that counts of the durations it was moved on by, cut off at the
  latest instant.  So the order of the durations does not matter.
- If these are durations of whole milliseconds with a duration as their sum, the clock ends where
  one advance by the sum brings it, under the same condition on the sum. -/
theorem advances_add_up {n : Nat} (c : Clocks n) (i : Fin n) :
    (∀ h d, c.clock? h = some i →
      c.time i ≤ (c.perform (.advance h d)).time i ∧
      (((c.perform (.advance h d)).time i).toInt = min maxMillis ((c.time i).toInt + d.millis) ↔
        0 ≤ (c.time i).toInt ∨ d.millis ≤ maxMillis)) ∧
    ∀ steps : List Step, (∀ step ∈ steps, step.IsForward) →
      ∃ t : Instant,
        (∀ h, (c.run steps).clock? h = some i → (c.run steps).time? h = some t) ∧
        (∀ h, c.clock? h = some i → (c.run steps).clock? h = some i) ∧
        t.toInt = min maxMillis ((c.time i).toInt + Duration.reach (c.moves i steps)) ∧
        (∀ others : List Step, (∀ step ∈ others, step.IsForward) →
          (c.moves i others).Perm (c.moves i steps) → (c.run others).time i = t) ∧
        ∀ total : Duration, (∀ d ∈ c.moves i steps, d.IsWhole) →
          total.nanoseconds = ((c.moves i steps).map Duration.nanoseconds).sum →
          0 ≤ (c.time i).toInt ∨ total.millis ≤ maxMillis →
          t = (c.time i).advance total ∧
            t.toInt = min maxMillis ((c.time i).toInt + total.millis) := by
  constructor
  · intro h d own
    have moved : (c.perform (.advance h d)).time i = (c.time i).advance d := by
      rw [perform, time_change, if_pos own]
    rw [moved]
    exact ⟨(c.time i).le_advance d, (c.time i).toInt_advance_eq_iff d⟩
  · intro steps forward
    refine ⟨(c.run steps).time i, fun h => time?_of_clock?, fun h own => clock?_run own steps,
      ?_, ?_, ?_⟩
    · rw [time_run forward, Instant.toInt_foldl_advance]
    · intro others forward' perm
      have reach : Duration.reach (c.moves i others) = Duration.reach (c.moves i steps) :=
        (perm.map Duration.counted).sum_eq
      rw [← Int64.toInt_inj, time_run forward, time_run forward', Instant.toInt_foldl_advance,
        Instant.toInt_foldl_advance, reach]
    · intro total whole sum within
      have single : (c.run steps).time i = (c.time i).advance total := by
        rw [time_run forward]
        exact Instant.foldl_advance_eq (Duration.millis_eq_span whole sum) within
      refine ⟨single, ?_⟩
      rw [single]
      exact ((c.time i).toInt_advance_eq_iff total).mpr within

/-- A clone shows what its clock was moved on by through both of its handles, and nothing of what
another clock was moved on by. -/
theorem clone_shows_both_advances :
    ((Clocks.start #v[1000, -5]).run [.clone 0, .advance 2 (.ofMillis 250),
      .advance 1 (.ofMillis 7), .advance 0 (.ofMillis 50)]).time? 2 = some 1300 := by
  obtain ⟨-, runs⟩ := advances_add_up (.start #v[1000, -5]) 0
  obtain ⟨t, shows', -, -, -, once⟩ := runs [.clone 0, .advance 2 (.ofMillis 250),
    .advance 1 (.ofMillis 7), .advance 0 (.ofMillis 50)] (by simp [Step.IsForward])
  have moves : (Clocks.start #v[1000, -5]).moves 0 [.clone 0, .advance 2 (.ofMillis 250),
      .advance 1 (.ofMillis 7), .advance 0 (.ofMillis 50)] = [.ofMillis 250, .ofMillis 50] := by
    decide
  rw [moves] at once
  rw [shows' 2 (by decide), (once (.ofMillis 300) (by decide) (by decide) (.inl (by decide))).1]
  decide

/-- **A clock that stands before the epoch falls short.**  A second before it, the longest duration
brings the clock only to a second before the latest instant.  And two durations get it further than
one advance by their sum. -/
theorem advance_before_epoch_falls_short :
    let c : Clocks 1 := .start #v[-1000]
    let longest : Duration := ⟨18446744073709551615, 999999999⟩
    (c.run [.advance 0 longest]).time? 0 = some 9223372036854774807 ∧
      min maxMillis (-1000 + longest.millis) = 9223372036854775807 ∧
      (c.run [.advance 0 (.ofMillis 9223372036854775807), .advance 0 (.ofMillis 2000)]).time? 0 =
        some 9223372036854775807 ∧
      (c.run [.advance 0 (.ofMillis 9223372036854777807)]).time? 0 = some 9223372036854774807 := by
  decide

end Clocks

end FeatureLock
