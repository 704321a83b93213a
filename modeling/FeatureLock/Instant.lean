/-!
# Instants and durations

Clock readings and deadlines are milliseconds since the epoch in 64 bits with a
sign.  Durations have nanoseconds.

## Main Definitions

- `Instant`: a clock reading
- `Instant.ofInt?`, `Instant.clamp`: the instant at a number of milliseconds, if
  there is one, and the nearest one
- `Duration`: whole seconds and nanoseconds, with `millis` and `describe`
- `Instant.after?`, `Instant.advance`: an instant and a duration later

Main statements: `Instant.toInt_of_ofInt?` and `Instant.toInt_clamp`, which say
in whole numbers what the two conversions give, and `Instant.toInt_advance`.
-/

namespace FeatureLock

/-- A clock reading: milliseconds since the epoch. -/
abbrev Instant := Int64

/-- A span of time: whole seconds, and nanoseconds short of one more. -/
structure Duration where
  secs : UInt64
  nanos : Fin 1000000000
  deriving DecidableEq

namespace Instant

/-- The earliest instant, in milliseconds. -/
def minMillis : Int := -9223372036854775808

/-- The latest instant, in milliseconds. -/
def maxMillis : Int := 9223372036854775807

/-- The instant at a number of milliseconds, where there is one. -/
def ofInt? (n : Int) : Option Instant :=
  if minMillis ≤ n ∧ n ≤ maxMillis then some (Int64.ofInt n) else none

/-- The instant nearest to a number of milliseconds. -/
def clamp (n : Int) : Instant :=
  Int64.ofInt (max minMillis (min maxMillis n))

theorem minMillis_le (t : Instant) : minMillis ≤ t.toInt := by
  have := Int64.le_toInt t
  simp only [minMillis]
  omega

theorem le_maxMillis (t : Instant) : t.toInt ≤ maxMillis := by
  have := Int64.toInt_lt t
  simp only [maxMillis]
  omega

/-- **A number of milliseconds has at most the instant that shows it.** -/
theorem toInt_of_ofInt? {n : Int} {t : Instant} (h : ofInt? n = some t) : t.toInt = n := by
  simp only [ofInt?, Option.ite_none_right_eq_some, Option.some.injEq] at h
  obtain ⟨⟨lo, hi⟩, rfl⟩ := h
  simp only [minMillis, maxMillis] at lo hi
  exact Int64.toInt_ofInt_of_le (by omega) (by omega)

theorem ofInt?_toInt (t : Instant) : ofInt? t.toInt = some t := by
  rw [ofInt?, if_pos ⟨minMillis_le t, le_maxMillis t⟩, Int64.ofInt_toInt]

/-- **The nearest instant shows the number of milliseconds cut off at the two ends.** -/
theorem toInt_clamp (n : Int) : (clamp n).toInt = max minMillis (min maxMillis n) := by
  have lo : minMillis ≤ max minMillis (min maxMillis n) := Int.le_max_left ..
  have hi : max minMillis (min maxMillis n) ≤ maxMillis :=
    Int.max_le.2 ⟨by decide, Int.min_le_left ..⟩
  simp only [clamp]
  generalize max minMillis (min maxMillis n) = m at lo hi
  simp only [minMillis, maxMillis] at lo hi
  exact Int64.toInt_ofInt_of_le (by omega) (by omega)

end Instant

namespace Duration

/-- The whole milliseconds of a duration. -/
def millis (d : Duration) : Nat :=
  d.secs.toNat * 1000 + d.nanos.val / 1000000

/-- The milliseconds that an instant is moved on by: no more than an instant can show. -/
def counted (d : Duration) : Int :=
  min Instant.maxMillis d.millis

theorem counted_nonneg (d : Duration) : 0 ≤ d.counted :=
  Int.le_min.mpr ⟨by decide, Int.natCast_nonneg _⟩

/-- A number of milliseconds. -/
def ofMillis (ms : UInt64) : Duration where
  secs := ms / 1000
  nanos := Fin.ofNat 1000000000 (ms.toNat % 1000 * 1000000)

/-- A decimal fraction of the given number of places, without its trailing zeros and without the
point when nothing is left. -/
def fractionText (places n : Nat) : String :=
  let ds := Nat.toDigits 10 n
  let padded := List.replicate (places - ds.length) '0' ++ ds
  let kept := (padded.reverse.dropWhile (· == '0')).reverse
  if kept.isEmpty then "" else "." ++ String.ofList kept

/-- **A duration in its largest whole unit**, as in `1.5s`, `120.45ms`, `2µs` or `0ns`. -/
def describe (d : Duration) : String :=
  let n := d.nanos.val
  if 0 < d.secs.toNat then toString d.secs.toNat ++ fractionText 9 n ++ "s"
  else if 1000000 ≤ n then toString (n / 1000000) ++ fractionText 6 (n % 1000000) ++ "ms"
  else if 1000 ≤ n then toString (n / 1000) ++ fractionText 3 (n % 1000) ++ "µs"
  else toString n ++ "ns"

end Duration

namespace Instant

/-- The instant a duration's whole milliseconds later, where there is one. -/
def after? (now : Instant) (d : Duration) : Option Instant :=
  ofInt? (now.toInt + d.millis)

/-- **The instant a duration's whole milliseconds later, or the latest one.**  A duration counts for
no more milliseconds than an instant can show, however far before the epoch the clock stands. -/
def advance (now : Instant) (d : Duration) : Instant :=
  clamp (now.toInt + min maxMillis d.millis)

/-- **An instant is moved on by the milliseconds that count**, but not beyond the latest one. -/
theorem toInt_advance (now : Instant) (d : Duration) :
    (now.advance d).toInt = min maxMillis (now.toInt + d.counted) := by
  have early := now.minMillis_le
  have forward := d.counted_nonneg
  have within : minMillis ≤ min maxMillis (now.toInt + d.counted) :=
    Int.le_min.mpr ⟨by decide, by omega⟩
  rw [advance, toInt_clamp, ← Duration.counted, Int.max_eq_right within]

theorem le_advance (now : Instant) (d : Duration) : now ≤ now.advance d := by
  have late := now.le_maxMillis
  have forward := d.counted_nonneg
  rw [Int64.le_iff_toInt_le, toInt_advance]
  exact Int.le_min.mpr ⟨late, by omega⟩

end Instant

end FeatureLock
