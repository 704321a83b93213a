import FeatureLock.Lock.Service
import FeatureLock.Store

/-!
# Sessions

A session is a lock service over a store, with a clock that is set by hand.
Between the service and its store stands a recorder: it notes the calls that an
operation makes, and it can be told to interfere with the next call of a kind.

## Main Definitions

- `Session`: a service, a store, the time and the hooks that wait
- `Hook`: direct steps to be done before the next call of a kind, which may then
  be made to fail
- `Session.answer`: one question of an operation, answered by a session
- `Session.Step`, `Session.perform`, `Session.play`: steps of a session, one and
  many
-/

namespace FeatureLock

/-- An interference with the next call of a kind: direct steps on the store before it, and whether
the call then fails without reaching the store. -/
structure Hook where
  steps : List StoreStep
  fails : Bool

/-- A lock service over a store, with a clock that is set by hand. -/
structure Session where
  service : Service
  store : Store
  now : Instant
  /-- the hooks that wait for a call, at most one for each kind -/
  hooks : List (CallKind × Hook)
  /-- the calls of the current operation -/
  calls : List CallKind

namespace Session

/-- A session in which nothing has happened. -/
def start (service : Service) (store : Store) (now : Instant) : Session where
  service := service
  store := store
  now := now
  hooks := []
  calls := []

/-- Note a call. -/
def record (s : Session) (kind : CallKind) : Session :=
  { s with calls := s.calls ++ [kind] }

/-- Do direct steps on the store, whatever they answer. -/
def interfere (s : Session) (steps : List StoreStep) : Session :=
  { s with store := steps.foldl (fun st step => (st.perform step).2) s.store }

/-- Pass a call on to the store. -/
def forward (s : Session) (c : Call) : Outcome c × Session :=
  let (a, st) := s.store.answer c
  (a, { s with store := st })

/-- **One call of an operation**: it is noted, the hook that waits for it is used up, and unless
the hook makes it fail it reaches the store. -/
def call (s : Session) (c : Call) : Outcome c × Session :=
  let s := s.record c.kind
  match s.hooks.lookup c.kind with
  | none => s.forward c
  | some hook =>
    let s := { s with hooks := s.hooks.filter (·.1 ≠ c.kind) }.interfere hook.steps
    if hook.fails then (.error (c.fail .refused), s) else s.forward c

/-- One question of an operation, answered by the session. -/
def answer : (q : Ask) → Session → q.Answer × Session
  | .call c, s => s.call c
  | .clock, s => (s.now, s)

/-- A step of a session. -/
inductive Step where
  | command (c : Command)
  | setClock (now : Instant)
  | advance (d : Duration)
  | defaultDuration
  | hook (kind : CallKind) (h : Hook)
  | store (step : StoreStep)

/-- What a step answers. -/
inductive Answer where
  /-- the result of an operation, the calls it made, and what is stored under its key afterwards -/
  | performed (result : Except Failure Reply) (calls : List CallKind)
      (stored : Except Failure (Option Feature))
  | time (now : Instant)
  /-- a number of milliseconds in 64 bits without a sign -/
  | millis (n : UInt64)
  | armed
  | store (r : StoreReply)

/-- **One step of a session.** -/
def perform (s : Session) : Step → Answer × Session
  | .command c =>
    let (result, s) := Program.run answer (s.service.perform c) { s with calls := [] }
    (.performed result s.calls (s.store.answer (.find c.key)).1, s)
  | .setClock now => (.time now, { s with now := now })
  | .advance d => (.time (s.now.advance d), { s with now := s.now.advance d })
  | .defaultDuration => (.millis (UInt64.ofNat s.service.defaultDuration.millis), s)
  | .hook kind h => (.armed, { s with hooks := (kind, h) :: s.hooks.filter (·.1 ≠ kind) })
  | .store step =>
    let (r, st) := s.store.perform step
    (.store r, { s with store := st })

/-- **Many steps of a session**, with the answer of each. -/
def play (s : Session) : List Step → List Answer
  | [] => []
  | step :: steps =>
    let (a, s) := s.perform step
    a :: s.play steps

end Session

end FeatureLock
