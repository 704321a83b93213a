import FeatureLock.Lock.Catalog
import FeatureLock.Program
import FeatureLock.Store.Gateway

/-!
# The lock service

Features are added, read, locked, unlocked and deleted.  There is no background
sweep: a lock whose deadline has passed is taken off by the first read that
comes across it, in one conditional step of the store, and reported as open.

## Main Definitions

- `Operation`: a program that asks the store and the clock and may fail
- `Service`: the reason catalog and the default duration of locks
- `Service.add`, `read`, `isLocked`, `lockReasons`, `lock`, `lockForDefault`,
  `unlock`, `delete`: the operations
- `Command`, `Service.perform`: all operations as one type

## Design Notes

An operation checks its arguments before it asks the store anything.  The first
failing call ends it, with the failure of that call.
-/

namespace FeatureLock

/-- What an operation asks for: a call on the store, or the time. -/
inductive Ask where
  | call (c : Call)
  | clock
  deriving DecidableEq

/-- What answers an operation's question. -/
def Ask.Answer : Ask → Type
  | call c => Outcome c
  | clock => Instant

/-- A program that asks the store and the clock, and may fail. -/
abbrev Operation := ExceptT Failure (Program Ask Ask.Answer)

namespace Operation

/-- Ask the store; a failing call is the operation's failure. -/
def call (c : Call) : Operation c.Answer :=
  ExceptT.mk (.asking (Ask.call c))

/-- Read the clock. -/
def now : Operation Instant :=
  ExceptT.mk (.ask Ask.clock fun t => .done (.ok t))

/-- A check of an argument. -/
def check {α : Type} : Except Complaint α → Operation α
  | .ok a => pure a
  | .error why => throw (.illegalArgument why)

/-- The feature of a key, which has to be there. -/
def findExisting (k : Key) : Operation Feature := do
  match ← call (.find k) with
  | some f => return f
  | none => throw (.notFound k)

/-- Replace the feature of a key, which has to be there. -/
def replaceExisting (f : Feature) : Operation Feature := do
  let found : Bool ← call (.update f)
  if found then return f else throw (.notFound f.key)

end Operation

/-- What the operations of a service share. -/
structure Service where
  catalog : Catalog
  defaultDuration : Duration

/-- Five minutes. -/
def standardDuration : Duration := .ofMillis 300000

namespace Service

open Operation

/-- **Add an open feature**, unless its key is taken. -/
def add (k : Key) : Operation Feature := do
  check k.validate
  call (.insert (.fresh k))
  return .fresh k

/-- **The state of a feature after lazy expiry.**  A feature that is not expired is reported as it
was found.  One that is expired is released in the store; if the store no longer finds it expired,
somebody else changed it in the meantime, and what is stored now is reported. -/
def reconcile (k : Key) : Operation Feature := do
  let f ← findExisting k
  let now ← now
  if f.isExpiredAt now then
    let released : Bool ← call (.expire k now)
    if released then return f.unlocked else findExisting k
  else return f

/-- The current state of a feature. -/
def read (k : Key) : Operation Feature := do
  check k.validate
  reconcile k

/-- Whether a feature is locked. -/
def isLocked (k : Key) : Operation Bool := do
  return (← read k).locked

/-- Why a feature is locked; an open feature has no reasons. -/
def lockReasons (k : Key) : Operation LockReasons := do
  return (← read k).lockReasons

/-- The deadline of a lock that begins now: at least a millisecond away, and an instant of the
clock. -/
def deadlineAfter (d : Duration) : Operation Instant := do
  if d.millis = 0 then throw (.illegalArgument .durationTooShort)
  else if Instant.maxMillis < d.millis then throw (.illegalArgument (.durationOutOfRange d))
  else match (← now).after? d with
    | some t => return t
    | none => throw (.illegalArgument (.durationOutOfRange d))

/-- The deadline of a lock of a duration; without a duration there is none. -/
def deadline : Option Duration → Operation Instant
  | none => return noDeadline
  | some d => deadlineAfter d

/-- **Lock a feature**, in place of any lock that it has: for a duration or indefinitely, for the
reasons that the codes stand for. -/
def lock (s : Service) (k : Key) (d : Option Duration) (codes : List String) :
    Operation Feature := do
  check k.validate
  let reasons ← check (s.catalog.resolve codes)
  let unlockTime ← deadline d
  replaceExisting
    { key := k, locked := true, unlockTime := unlockTime, codes := reasons.codes,
      reasons := reasons.reasons }

/-- Lock a feature for the default duration. -/
def lockForDefault (s : Service) (k : Key) (codes : List String) : Operation Feature :=
  s.lock k (some s.defaultDuration) codes

/-- **Take the lock off a feature**, whether it has one or not. -/
def unlock (k : Key) : Operation Feature := do
  check k.validate
  replaceExisting (.fresh k)

/-- **Delete a feature**, whether it is there or not. -/
def delete (k : Key) : Operation Unit := do
  check k.validate
  discard (call (.delete k))

end Service

/-! ### Operations as values -/

/-- An operation with its arguments. -/
inductive Command where
  | add (k : Key)
  | read (k : Key)
  | isLocked (k : Key)
  | lockReasons (k : Key)
  | lock (k : Key) (d : Option Duration) (codes : List String)
  | lockForDefault (k : Key) (codes : List String)
  | unlock (k : Key)
  | delete (k : Key)

/-- The key that an operation addresses. -/
def Command.key : Command → Key
  | add k => k
  | read k => k
  | isLocked k => k
  | lockReasons k => k
  | lock k _ _ => k
  | lockForDefault k _ => k
  | unlock k => k
  | delete k => k

/-- What an operation answers. -/
inductive Reply where
  | feature (f : Feature)
  | flag (b : Bool)
  | reasons (r : LockReasons)
  | deleted
  deriving DecidableEq

/-- **The operation of a command.** -/
def Service.perform (s : Service) : Command → Operation Reply
  | .add k => return .feature (← add k)
  | .read k => return .feature (← read k)
  | .isLocked k => return .flag (← isLocked k)
  | .lockReasons k => return .reasons (← lockReasons k)
  | .lock k d codes => return .feature (← s.lock k d codes)
  | .lockForDefault k codes => return .feature (← s.lockForDefault k codes)
  | .unlock k => return .feature (← unlock k)
  | .delete k => do
    delete k
    return .deleted

end FeatureLock
