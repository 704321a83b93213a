import FeatureLock.Instant

/-!
# Clocks that are set by hand

A clock that is set by hand stands still until it is set or moved on.  It is reached
through handles: a clone of a handle belongs to the same clock, so what is done through
one of them shows at all of them.

## Main Definitions

- `Clocks`: some clocks, and the handles to them
- `Clocks.time`: the time of a clock
- `Clocks.clock?`, `Clocks.time?`: the clock of a handle, and the time that it shows
- `Clocks.Step`, `Clocks.perform`, `Clocks.run`: what is done through a handle, once and
  many times

## Design Notes

Handles are counted in the order in which they are made.  Each holds a number below the
number of clocks, so none is left without a clock; a step through a handle that is yet to
be made does nothing.  A step is atomic, so the steps of several threads are one list.
-/

namespace FeatureLock

/-- Clocks that are set by hand: the time of each, and for each handle the clock it belongs to. -/
structure Clocks (n : Nat) where
  times : Vector Instant n
  handles : List (Fin n)

namespace Clocks

variable {n : Nat}

/-- New clocks, each with one handle. -/
def start (times : Vector Instant n) : Clocks n where
  times := times
  handles := List.finRange n

/-- The time of a clock. -/
def time (c : Clocks n) (i : Fin n) : Instant :=
  c.times[i]

/-- The clock that a handle belongs to. -/
def clock? (c : Clocks n) (h : Nat) : Option (Fin n) :=
  c.handles[h]?

/-- The time that a handle shows. -/
def time? (c : Clocks n) (h : Nat) : Option Instant :=
  (c.clock? h).map c.time

/-- Give the clock of a handle another time, made from the one that it shows. -/
def change (c : Clocks n) (h : Nat) (f : Instant → Instant) : Clocks n :=
  match c.clock? h with
  | none => c
  | some i => { c with times := c.times.set i (f (c.time i)) }

theorem time_change (c : Clocks n) (h : Nat) (f : Instant → Instant) (i : Fin n) :
    (c.change h f).time i = if c.clock? h = some i then f (c.time i) else c.time i := by
  unfold change
  cases own : c.clock? h with
  | none => rfl
  | some j =>
    by_cases same : j = i
    · subst same
      simp [time]
    · have other : (j : Nat) ≠ i := fun eq => same (Fin.ext eq)
      simp [time, same, other]

theorem handles_change (c : Clocks n) (h : Nat) (f : Instant → Instant) :
    (c.change h f).handles = c.handles := by
  unfold change
  split <;> rfl

/-- What is done through a handle. -/
inductive Step where
  /-- one more handle of its clock -/
  | clone (h : Nat)
  | set (h : Nat) (now : Instant)
  | advance (h : Nat) (d : Duration)

/-- **One step.** -/
def perform (c : Clocks n) : Step → Clocks n
  | .clone h => { c with handles := c.handles ++ (c.clock? h).toList }
  | .set h now => c.change h fun _ => now
  | .advance h d => c.change h (·.advance d)

/-- **Many steps**, one after the other. -/
def run (c : Clocks n) (steps : List Step) : Clocks n :=
  steps.foldl perform c

end Clocks

end FeatureLock
