import FeatureLock.Lock.Service
import FeatureLock.Proofs.Store.Contents

/-!
# The lock service as a map

What the operations of the service are for, without stores, calls and clocks in
between: each is one step on the map from keys to features, made at one instant.

## Main Definitions

- `Contents.Step`, with `create`, `put`, `look` and `remove`: a step on the map, and
  the four that there are for the row of a key
- `Service.effect`: the step of a command
- `Command.IsRead`, `Command.report`: the commands that read, and what they
  report of a feature
- `Command.LocksForDuration`, `Command.IsTimeless`: the commands that make a lock
  with a deadline, and those that do not go by the time
- `Service.TakesEffect`: the step of a command, before which a read may take off
  an expired lock

Main statement: `Feature.isExpiredAt_mono`, an expired lock stays expired.

## Design Notes

A read reports the row as it stands; expiry is no part of `effect`.  Whoever
compares the service with the map says when expired locks are taken off: before
a single read (`TakesEffect`), or all at once (`Contents.sweep`).
-/

namespace FeatureLock

/-! ### Expiry -/

namespace Feature

theorem isExpiredAt_iff (f : Feature) (now : Instant) :
    f.isExpiredAt now = true ↔
      f.locked = true ∧ noDeadline < f.unlockTime ∧ f.unlockTime < now := by
  simp only [isExpiredAt, Bool.and_eq_true, decide_eq_true_eq, and_assoc]

/-- A lock that is expired stays so. -/
theorem isExpiredAt_mono {f : Feature} {now later : Instant} (le : now ≤ later)
    (expired : f.isExpiredAt now = true) : f.isExpiredAt later = true := by
  rw [isExpiredAt_iff] at expired ⊢
  obtain ⟨locked, deadline, past⟩ := expired
  exact ⟨locked, deadline, Int64.lt_of_lt_of_le past le⟩

theorem not_isExpiredAt_mono {f : Feature} {now later : Instant} (le : now ≤ later)
    (valid : f.isExpiredAt later = false) : f.isExpiredAt now = false := by
  refine Bool.eq_false_iff.mpr fun expired => ?_
  rw [isExpiredAt_mono le expired] at valid
  cases valid

@[simp] theorem isExpiredAt_fresh (k : Key) (now : Instant) :
    (fresh k).isExpiredAt now = false := rfl

/-- A lock without a deadline is expired at no time. -/
theorem isExpiredAt_of_noDeadline {f : Feature} (indefinite : f.unlockTime = noDeadline)
    (now : Instant) : f.isExpiredAt now = false := by
  refine Bool.eq_false_iff.mpr fun expired => ?_
  obtain ⟨-, deadline, -⟩ := (f.isExpiredAt_iff now).mp expired
  rw [indefinite] at deadline
  exact Int64.lt_irrefl deadline

end Feature

/-! ### Steps on the map -/

namespace Contents

/-- What a step on the map answers, and the map afterwards. -/
abbrev Step := Contents → Except Failure Reply × Contents

namespace Step

/-- Add the fresh feature of a key, unless the key is taken. -/
def create (k : Key) : Step := fun m =>
  match m k with
  | some _ => (.error (.alreadyExists k), m)
  | none => (.ok (.feature (.fresh k)), Function.update m k (some (.fresh k)))

/-- Put a feature in the place of the one with its key, which has to be there. -/
def put (f : Feature) : Step := fun m =>
  match m f.key with
  | some _ => (.ok (.feature f), Function.update m f.key (some f))
  | none => (.error (.notFound f.key), m)

/-- Report on the feature of a key, which has to be there. -/
def look (k : Key) (report : Feature → Reply) : Step := fun m =>
  match m k with
  | some f => (.ok (report f), m)
  | none => (.error (.notFound k), m)

/-- Leave a key without a feature. -/
def remove (k : Key) : Step := fun m =>
  (.ok .deleted, Function.update m k none)

/-- Refuse an argument. -/
def refuse (why : Complaint) : Step := fun m =>
  (.error (.illegalArgument why), m)

/-- A step that is made only when its arguments pass a check. -/
def checked {α : Type} (check : Except Complaint α) (step : α → Step) : Step :=
  match check with
  | .ok a => step a
  | .error why => refuse why

end Step

/-- The map with every lock taken off that is expired at an instant. -/
def sweep (now : Instant) (m : Contents) : Contents := fun k =>
  (m k).map fun f => if f.isExpiredAt now then .fresh k else f

end Contents

/-- The commands that read a feature. -/
def Command.IsRead : Command → Prop
  | read _ => True
  | isLocked _ => True
  | lockReasons _ => True
  | _ => False

/-- The commands that lock a feature for a duration. -/
def Command.LocksForDuration : Command → Prop
  | lock _ d _ => d.isSome
  | lockForDefault _ _ => True
  | _ => False

/-- The commands that do not go by the time. -/
def Command.IsTimeless (c : Command) : Prop :=
  ¬ c.IsRead ∧ ¬ c.LocksForDuration

theorem Command.IsRead.not_locksForDuration {c : Command} (read : c.IsRead) :
    ¬ c.LocksForDuration := by
  intro locks
  cases c <;> first | exact False.elim read | exact False.elim locks

/-- What a command reports of a feature. -/
def Command.report : Command → Feature → Reply
  | isLocked _, f => .flag f.locked
  | lockReasons _, f => .reasons f.lockReasons
  | _, f => .feature f

/-- The deadline of a lock that begins at an instant: at least a millisecond away, and an instant of
the clock; without a duration there is none. -/
def Instant.deadline (now : Instant) : Option Duration → Except Complaint Instant
  | none => .ok noDeadline
  | some d =>
    if d.millis = 0 then .error .durationTooShort
    else if Instant.maxMillis < d.millis then .error (.durationOutOfRange d)
    else match now.after? d with
      | some t => .ok t
      | none => .error (.durationOutOfRange d)

namespace Instant

theorem lt_of_after? {now t : Instant} {d : Duration} (positive : d.millis ≠ 0)
    (later : now.after? d = some t) : now < t := by
  have shown := toInt_of_ofInt? later
  rw [Int64.lt_iff_toInt_lt]
  omega

/-- A deadline is none, or still to come. -/
theorem deadline_ok {now t : Instant} {d : Option Duration} (ok : now.deadline d = .ok t) :
    t = noDeadline ∨ now < t := by
  cases d with
  | none =>
    cases ok
    exact .inl rfl
  | some d =>
    simp only [deadline] at ok
    split at ok
    · cases ok
    · next positive =>
      split at ok
      · cases ok
      · split at ok
        · next later =>
          cases ok
          exact .inr (lt_of_after? positive later)
        · cases ok

end Instant

namespace Service

/-- The locked feature that a lock leaves behind when it begins at an instant. -/
def lockedAt (s : Service) (now : Instant) (k : Key) (d : Option Duration)
    (codes : List String) : Except Complaint Feature := do
  k.validate
  let reasons ← s.catalog.resolve codes
  let unlockTime ← now.deadline d
  return ⟨k, true, unlockTime, reasons.codes, reasons.reasons⟩

/-- A lock leaves its feature behind only when all its arguments are accepted. -/
theorem lockedAt_ok {s : Service} {now : Instant} {k : Key} {d : Option Duration}
    {codes : List String} {f : Feature} (ok : s.lockedAt now k d codes = .ok f) :
    ∃ reasons t, s.catalog.resolve codes = .ok reasons ∧ now.deadline d = .ok t ∧
      f = ⟨k, true, t, reasons.codes, reasons.reasons⟩ := by
  unfold lockedAt at ok
  cases valid : k.validate with
  | error why =>
    rw [valid] at ok
    cases ok
  | ok _ =>
    cases resolved : s.catalog.resolve codes with
    | error why =>
      rw [valid, resolved] at ok
      cases ok
    | ok reasons =>
      cases deadline : now.deadline d with
      | error why =>
        rw [valid, resolved, deadline] at ok
        cases ok
      | ok t =>
        rw [valid, resolved, deadline] at ok
        cases ok
        exact ⟨reasons, t, rfl, rfl, rfl⟩

/-- **The step of a command on the map of features**, made at one instant. -/
def effect (s : Service) (now : Instant) : Command → Contents.Step
  | .add k => .checked k.validate fun _ => .create k
  | .lock k d codes => .checked (s.lockedAt now k d codes) .put
  | .lockForDefault k codes => .checked (s.lockedAt now k (some s.defaultDuration) codes) .put
  | .unlock k => .checked k.validate fun _ => .put (.fresh k)
  | .delete k => .checked k.validate fun _ => .remove k
  | c => .checked c.key.validate fun _ => .look c.key c.report

/-- **A command takes effect on a map at an instant** with a result: it makes its step, and if it is
a read the lock of its feature may be taken off right before, provided it is expired at that
instant. -/
def TakesEffect (s : Service) (now : Instant) (c : Command) (m : Contents)
    (result : Except Failure Reply) (m' : Contents) : Prop :=
  s.effect now c m = (result, m') ∨
    (c.IsRead ∧ ∃ f, m c.key = some f ∧ f.isExpiredAt now = true ∧
      s.effect now c (Function.update m c.key (some (.fresh c.key))) = (result, m'))

end Service

end FeatureLock
