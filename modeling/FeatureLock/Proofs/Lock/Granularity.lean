import FeatureLock.Proofs.Contract
import FeatureLock.Proofs.Session.Ledger

/-!
# Operations call by call and statement by statement

What is one step of an operation depends on how close one looks.  For a store a call
is one step.  For a database a call is one or two statements, and whatever other
operations do may come between them.  Both views are runs of the same operations, in
one case in the world of a session, in the other in the world of a database.

## Main Definitions

- `Session.world`, `Service.callByCall`: operations that share a store
- `Query`, `Call.queries`, `Ask.queries`: what an operation asks of a database, and
  the queries that find the answer to a question
- `Database.world`, `Service.statementByStatement`: operations that share a database

Main statement: `Service.run_queries`, the operation that runs alone does not tell
the two views apart.

## Design Notes

A call can fail in any way, a statement for any reason.  Neither has an effect then;
but where the second statement of a call fails, the first one has had its effect.
-/

namespace FeatureLock

/-! ### Call by call -/

/-- **The world of a session**, in which a call is one step. -/
def Session.world : World Ask Ask.Answer Failure Session where
  answer := Session.answer
  failing
    | e, .call _ => some (.error e)
    | _, .clock => none
  setClock now s := { s with now := now }

/-- Operations that share a store, call by call. -/
def Service.callByCall {ι : Type} (s : Service) (store : Store) (now : Instant)
    (command : ι → Command)
    (schedule : Nat → Happening ι Failure) :
    Run ι Ask Ask.Answer Failure Session (Except Failure Reply) where
  world := Session.world
  start := ⟨.start s store now, fun i => s.perform (command i)⟩
  schedule := schedule

/-! ### Statement by statement -/

/-- What an operation asks of a database: to execute a statement, or the time. -/
inductive Query where
  | statement (s : Statement)
  | clock
  deriving DecidableEq

/-- What answers a query. -/
def Query.Answer : Query → Type
  | statement s => s.Result
  | clock => Instant

/-- The query that executes a statement. -/
def Statement.query (s : Statement) : Program Query Query.Answer s.Result :=
  .asking (Query.statement s)

/-- The queries of a call: the statements of the gateway. -/
def Call.queries (c : Call) : Program Query Query.Answer (Outcome c) :=
  (Database.gateway c).expand Statement.query

/-- **The queries that find the answer to a question.** -/
def Ask.queries : (q : Ask) → Program Query Query.Answer q.Answer
  | .call c => c.queries
  | .clock => .asking Query.clock

namespace Call

/-- A search is one statement. -/
theorem queries_find (k : Key) :
    (Call.find k).queries = .ask (.statement (.select k)) fun
      | .ok (none : Option Row) => .done (.ok none)
      | .ok (some r : Option Row) => .done (readRow k r)
      | .error e => .done (.error (Database.report (.select k) e)) := by
  refine congrArg (Program.ask (A := Query.Answer) (Query.statement (.select k)))
    (funext fun result => ?_)
  rcases result with e | _ | r
  · rfl
  · rfl
  · simp only [Program.bind, readRow]
    cases r.toFeature <;> rfl

/-- The count that follows a replacement that was not counted. -/
def recount (f : Feature) : Program Query Query.Answer (Outcome (.update f)) :=
  .ask (.statement (.count f.key)) fun
    | .ok (n : Nat) => .done (.ok (decide (0 < n)))
    | .error e => .done (.error (Database.report (.count f.key) e))

theorem queries_rowExists (f : Feature) :
    (Database.rowExists f.key).expand Statement.query = recount f := by
  refine congrArg (Program.ask (A := Query.Answer) (Query.statement (.count f.key)))
    (funext fun result => ?_)
  rcases result with e | n <;> rfl

/-- **A replacement is one statement or two.** -/
theorem queries_update (f : Feature) :
    (Call.update f).queries = .ask (.statement (.update f.key (.ofFeature f))) fun
      | .ok (n : Nat) => if 0 < n then .done (.ok true) else recount f
      | .error e => .done (.error (Database.report (.update f.key (.ofFeature f)) e)) := by
  refine congrArg (Program.ask (A := Query.Answer) (Query.statement (.update f.key (.ofFeature f))))
    (funext fun result => ?_)
  rcases result with e | n
  · rfl
  · simp only [Program.bind, ← queries_rowExists]
    cases n <;> rfl

/-- **The statements that a call can execute.** -/
inductive MayExecute : Call → Statement → Prop where
  | insert (f : Feature) : MayExecute (insert f) (.insert (.ofFeature f))
  | find (k : Key) : MayExecute (find k) (.select k)
  | update (f : Feature) : MayExecute (update f) (.update f.key (.ofFeature f))
  | recount (f : Feature) : MayExecute (update f) (.count f.key)
  | expire (k : Key) (now : Instant) : MayExecute (expire k now) (.expire k now)
  | delete (k : Key) : MayExecute (delete k) (.delete k)

/-- What a call answers under a contract: a search finds the feature of a row that may be counted
on. -/
def Reads (K : Contract Query Query.Answer) : (c : Call) → Outcome c → Prop
  | find k, (outcome : Outcome (.find k)) => ∀ f, outcome = .ok (some f) → ∃ r : Row,
    K.answers (.statement (.select k)) (Except.ok (some r) : Statement.Result (.select k)) ∧
      r.toFeature = .ok f
  | _, _ => True

/-- **A call executes only its statements**, and a search reads the row that is selected. -/
theorem queries_fulfil {K : Contract Query Query.Answer} (c : Call)
    (asks : ∀ s, c.MayExecute s → K.asks (.statement s)) : c.queries.Fulfils K (c.Reads K) := by
  cases c with
  | insert f =>
    refine ⟨asks _ (.insert f), fun result _ => ?_⟩
    rcases result with e | _ <;> trivial
  | find k =>
    rw [queries_find]
    refine ⟨asks _ (.find k), fun result answered => ?_⟩
    rcases result with e | _ | r
    · intro f found
      cases found
    · intro f found
      cases found
    · intro f found
      refine ⟨r, answered, ?_⟩
      simp only [readRow] at found
      split at found
      · next g read =>
        cases found
        exact read
      · cases found
  | update f =>
    rw [queries_update]
    refine ⟨asks _ (.update f), fun result _ => ?_⟩
    rcases result with e | n
    · trivial
    · cases n with
      | zero =>
        refine ⟨asks _ (.recount f), fun result _ => ?_⟩
        rcases result with e | n <;> trivial
      | succ n => trivial
  | expire k now =>
    refine ⟨asks _ (.expire k now), fun result _ => ?_⟩
    rcases result with e | _ <;> trivial
  | delete k =>
    refine ⟨asks _ (.delete k), fun result _ => ?_⟩
    rcases result with e | _ <;> trivial

end Call

/-- The operation of a command, query by query. -/
def Service.queries (s : Service) (c : Command) :
    Program Query Query.Answer (Except Failure Reply) :=
  Program.expand Ask.queries (s.perform c)

/-- **The world of a database with a clock**, in which a statement is one step. -/
def Database.world : World Query Query.Answer StatementFault (Database × Instant) where
  answer
    | .statement s, (db, now) => ((execute s db).1, (execute s db).2, now)
    | .clock, (db, now) => (now, db, now)
  failing
    | e, .statement _ => some (.error e)
    | _, .clock => none
  setClock now s := (s.1, now)

/-- Operations that share a database, statement by statement. -/
def Service.statementByStatement {ι : Type} (s : Service) (db : Database) (now : Instant)
    (command : ι → Command) (schedule : Nat → Happening ι StatementFault) :
    Run ι Query Query.Answer StatementFault (Database × Instant) (Except Failure Reply) where
  world := Database.world
  start := ⟨(db, now), fun i => s.queries (command i)⟩
  schedule := schedule

/-! ### Alone -/

/-- The queries of a call, without interference, are the call. -/
theorem Ask.run_queries_call (c : Call) (db : Database) (now : Instant) :
    (Ask.queries (.call c)).run Database.world.answer (db, now) =
      ((db.answer c).1, (db.answer c).2, now) := by
  have alike : ∀ (s : Statement) (x : Database × Instant) (y : Database), (x.1 = y ∧ x.2 = now) →
      (s.query.run Database.world.answer x).1 = (Database.execute s y).1 ∧
        ((s.query.run Database.world.answer x).2.1 = (Database.execute s y).2 ∧
          (s.query.run Database.world.answer x).2.2 = now) := by
    rintro s ⟨db, t⟩ y ⟨rfl, rfl⟩
    exact ⟨rfl, rfl, rfl⟩
  refine (Program.run_expand Database.world.answer Statement.query (Database.gateway c) _).trans ?_
  obtain ⟨same, database, clock⟩ :=
    Program.run_related alike (Database.gateway c) (s := (db, now)) (t := db) ⟨rfl, rfl⟩
  exact Prod.ext same (Prod.ext database clock)

/-- **An operation that runs alone does the same query by query as call by call.** -/
theorem Service.run_queries (s : Service) (c : Command) (db : Database) (now : Instant) :
    ((s.queries c).run Database.world.answer (db, now)).1 =
        (Program.run Session.answer (s.perform c) (.start s (.database db) now)).1 ∧
      (Program.run Session.answer (s.perform c) (.start s (.database db) now)).2.store =
        .database ((s.queries c).run Database.world.answer (db, now)).2.1 := by
  -- a session without hooks over the database answers a question as its queries do
  have alike : ∀ (q : Ask) (x : Database × Instant) (y : Session),
      (y.store = .database x.1 ∧ y.now = x.2 ∧ y.hooks = []) →
        (q.queries.run Database.world.answer x).1 = (y.answer q).1 ∧
          ((y.answer q).2.store = .database (q.queries.run Database.world.answer x).2.1 ∧
            (y.answer q).2.now = (q.queries.run Database.world.answer x).2.2 ∧
            (y.answer q).2.hooks = []) := by
    rintro q ⟨db, t⟩ y ⟨store, rfl, quiet⟩
    cases q with
    | call c =>
      rw [Ask.run_queries_call, Session.answer_call quiet, store]
      exact ⟨rfl, rfl, rfl, quiet⟩
    | clock => exact ⟨rfl, store, rfl, quiet⟩
  rw [Service.queries, Program.run_expand]
  obtain ⟨same, store, -, -⟩ := Program.run_related alike (s.perform c) (s := (db, now))
    (t := .start s (.database db) now) ⟨rfl, rfl, rfl⟩
  exact ⟨same, store⟩

end FeatureLock
