import FeatureLock.Failure

/-!
# Features and their locks

A feature is open or locked.  A lock is indefinite or has a deadline; it is
expired once the clock has passed the deadline.

## Main Definitions

- `Feature`, `Feature.fresh`: a feature, and the open one without a trace of a lock
- `isIndefinite`, `isExpiredAt`, `remainingAt`: the three views of a lock's time
- `unlocked`: the feature with its lock taken off
- `LockReasons`: why a feature is locked, codes and messages side by side

## Design Notes

Nothing in the type ties the deadline and the reasons to the flag: a store may
hold an open feature with a deadline, or lists of different lengths.  What the
service itself writes is tidier, and that is a theorem about the service.
-/

namespace FeatureLock

/-- The deadline of a lock without one. -/
def noDeadline : Instant := 0

/-- A feature of one subject within a tenant. -/
structure Feature where
  key : Key
  locked : Bool
  unlockTime : Instant
  codes : List String
  reasons : List String
  deriving DecidableEq

namespace Feature

/-- The open feature of a key: no deadline and no reasons. -/
def fresh (k : Key) : Feature where
  key := k
  locked := false
  unlockTime := noDeadline
  codes := []
  reasons := []

/-- Locked without a deadline. -/
def isIndefinite (f : Feature) : Bool :=
  f.locked && f.unlockTime == noDeadline

/-- Locked with a deadline, which has to be positive, and past it. -/
def isExpiredAt (f : Feature) (now : Instant) : Bool :=
  f.locked && decide (noDeadline < f.unlockTime) && decide (f.unlockTime < now)

/-- The milliseconds left of a lock with a deadline.  An open feature, a lock without a deadline
and a deadline that is past have none, nor has one too far away to count. -/
def remainingAt (f : Feature) (now : Instant) : Option Nat :=
  if !f.locked || f.unlockTime == noDeadline || decide (f.unlockTime < now) then none
  else (Instant.ofInt? (f.unlockTime.toInt - now.toInt)).map fun left => left.toInt.toNat

/-- The feature with its lock, deadline and reasons taken off. -/
def unlocked (f : Feature) : Feature :=
  { f with locked := false, unlockTime := noDeadline, codes := [], reasons := [] }

/-- **Taking off the lock leaves the fresh feature of the key.** -/
theorem unlocked_eq_fresh (f : Feature) : f.unlocked = fresh f.key := rfl

end Feature

/-- Why a feature is locked: codes, and their messages at the same positions. -/
structure LockReasons where
  codes : List String
  reasons : List String
  deriving DecidableEq

namespace LockReasons

/-- No reasons. -/
def empty : LockReasons := ⟨[], []⟩

/-- No codes. -/
def isEmpty (r : LockReasons) : Bool :=
  r.codes.isEmpty

/-- The codes with their messages, up to the end of the shorter list. -/
def pairs (r : LockReasons) : List (String × String) :=
  r.codes.zip r.reasons

end LockReasons

/-- Why a feature is locked. -/
def Feature.lockReasons (f : Feature) : LockReasons :=
  ⟨f.codes, f.reasons⟩

end FeatureLock
