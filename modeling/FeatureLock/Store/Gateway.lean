import FeatureLock.Feature

/-!
# The calls on a store

A store of features answers five calls.  Each is scoped by a whole key and knows
no rules of the lock service.

## Main Definitions

- `Call`, with `Call.key` and `Call.Answer`: a call, its key and what answers it
- `CallKind`: the five calls without their arguments, with `name` and `code`
- `Outcome`: the answer of a call or its failure
-/

namespace FeatureLock

/-- The five calls on a store. -/
inductive CallKind where
  | insert
  | find
  | update
  | expire
  | delete
  deriving DecidableEq

namespace CallKind

/-- The name of a call. -/
def name : CallKind → String
  | insert => "insert"
  | find => "find"
  | update => "update"
  | expire => "expire"
  | delete => "delete"

/-- The code under which a failure of the call is reported. -/
def code : CallKind → ErrorCode
  | insert => .insert
  | find => .find
  | update => .update
  | expire => .expire
  | delete => .delete

end CallKind

/-- A call on a store. -/
inductive Call where
  /-- add a feature whose key is free -/
  | insert (f : Feature)
  /-- the feature of a key, exactly as it is stored -/
  | find (k : Key)
  /-- replace the whole feature of a key; answers whether there was one -/
  | update (f : Feature)
  /-- take the lock off if it is expired, as one step; answers whether it was -/
  | expire (k : Key) (now : Instant)
  /-- remove the feature of a key; answers whether there was one -/
  | delete (k : Key)
  deriving DecidableEq

namespace Call

/-- Which of the five calls it is. -/
def kind : Call → CallKind
  | insert _ => .insert
  | find _ => .find
  | update _ => .update
  | expire .. => .expire
  | delete _ => .delete

/-- The key that a call is about. -/
def key : Call → Key
  | insert f => f.key
  | find k => k
  | update f => f.key
  | expire k _ => k
  | delete k => k

/-- What answers a call. -/
def Answer : Call → Type
  | insert _ => Unit
  | find _ => Option Feature
  | update _ => Bool
  | expire .. => Bool
  | delete _ => Bool

/-- The failure of a call under its own code. -/
def fail (c : Call) (cause : Cause) : Failure :=
  .server c.kind.code c.key cause

end Call

/-- The answer of a call, or its failure. -/
abbrev Outcome (c : Call) := Except Failure c.Answer

end FeatureLock
