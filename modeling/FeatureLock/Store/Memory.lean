import FeatureLock.Store.Gateway

/-!
# Features in memory

## Main Definitions

- `Memory`: the features held, at most one of a key
- `Memory.find?`: the feature of a key
- `Memory.answer`: the five calls, each one step that never fails but for an
  insertion under a key that is taken
-/

namespace FeatureLock

/-- Features held in memory, at most one of a key. -/
structure Memory where
  features : List Feature
  deriving DecidableEq

namespace Memory

/-- No features. -/
def empty : Memory := ⟨[]⟩

/-- How many features are held. -/
def size (m : Memory) : Nat :=
  m.features.length

/-- The feature of a key. -/
def find? (m : Memory) (k : Key) : Option Feature :=
  m.features.find? (·.key = k)

/-- Put a feature in the place of the one with its key. -/
def replace (m : Memory) (f : Feature) : Memory :=
  ⟨m.features.map fun g => if g.key = f.key then f else g⟩

/-- The features of all other keys. -/
def erase (m : Memory) (k : Key) : Memory :=
  ⟨m.features.filter (·.key ≠ k)⟩

/-- **The answer to a call, and the features held afterwards.** -/
def answer : (c : Call) → Memory → Outcome c × Memory
  | .insert f, m =>
    match m.find? f.key with
    | some _ => (.error (.alreadyExists f.key), m)
    | none => (.ok (), ⟨f :: m.features⟩)
  | .find k, m => (.ok (m.find? k), m)
  | .update f, m =>
    match m.find? f.key with
    | some _ => (.ok true, m.replace f)
    | none => (.ok false, m)
  | .expire k now, m =>
    match m.find? k with
    | some f => if f.isExpiredAt now then (.ok true, m.replace f.unlocked) else (.ok false, m)
    | none => (.ok false, m)
  | .delete k, m => (.ok (m.find? k).isSome, m.erase k)

end Memory

end FeatureLock
