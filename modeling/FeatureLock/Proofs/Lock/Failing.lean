import FeatureLock.Proofs.Lock.Calls
import FeatureLock.Proofs.Lock.Granularity
import FeatureLock.Proofs.Lock.Stage
import FeatureLock.Proofs.Signal
import FeatureLock.Proofs.Store.Agreement
import FeatureLock.Proofs.Store.Restriction

/-!
# An operation that fails has changed nothing

Any call of an operation can fail, and so can any statement of a call.  The first one
that does ends the operation with its own failure, and the only call that changes the
store is the last one of an operation that succeeds.

## Main Definitions

- `Statement.signals`, `Query.signals`, `Ask.signals`: the failures and changes that the
  answers to statements, queries and questions tell of
- `Database.IsSteady`, `Store.IsSteady`: an UPDATE that counts no row has changed nothing
- `Stage.Follows`: where an answer, whichever it is, leads from a question

Main statements: `Service.perform_stops` and `Service.queries_stop`, operations stop at the
first signal, call by call and statement by statement; `Service.perform_names`, a failure
names the key of its operation; and `failed_operations_change_nothing`.

## Design Notes

What a store answers without being made to fail can be a failure, too: the table may be
missing, a key taken or a row not readable.  All of these count as calls that fail.
-/

namespace FeatureLock

/-! ### What statements tell of -/

namespace Statement

/-- The failure of a search that selected a row, if the row is no feature. -/
def misread? (k : Key) (r : Row) : Option Failure :=
  match r.toFeature with
  | .ok _ => none
  | .error e => some (.server .decode k (.undecodable e))

/-- The failure of a call whose statement succeeds. -/
def unread? : (s : Statement) → s.Answer → Option Failure
  | select k => fun (found : Option Row) => found.bind (misread? k)
  | _ => fun _ => none

/-- Whether a statement that succeeds may have changed the table. -/
def Changed : (s : Statement) → s.Answer → Prop
  | insert _ => fun _ => True
  | update .. => fun (n : Nat) => 0 < n
  | expire .. => fun (n : Nat) => 0 < n
  | delete _ => fun _ => True
  | _ => fun _ => False

/-- **What the result of a statement tells of.**  A row that is no feature is a failure, too. -/
def signals : Signals Statement Result Failure where
  failure
    | s, .error fault => some (Database.report s fault)
    | s, .ok a => s.unread? a
  changes
    | _, .error _ => False
    | s, .ok a => s.Changed a

end Statement

/-- What the answer to a query tells of. -/
def Query.signals : Signals Query Query.Answer Failure where
  failure
    | .statement s, result => Statement.signals.failure s result
    | .clock, _ => none
  changes
    | .statement s, result => Statement.signals.changes s result
    | .clock, _ => False

/-- Whether a call that succeeds may have changed the store. -/
def Call.Changed : (c : Call) → c.Answer → Prop
  | insert _ => fun _ => True
  | find _ => fun _ => False
  | update _ => fun (found : Bool) => found = true
  | expire .. => fun (released : Bool) => released = true
  | delete _ => fun _ => True

/-- What the outcome of a call tells of. -/
def Call.signals : Signals Call Outcome Failure where
  failure
    | _, .error e => some e
    | _, .ok _ => none
  changes
    | _, .error _ => False
    | c, .ok a => c.Changed a

/-- What the answer to a question of an operation tells of. -/
def Ask.signals : Signals Ask Ask.Answer Failure where
  failure
    | .call c, outcome => Call.signals.failure c outcome
    | .clock, _ => none
  changes
    | .call c, outcome => Call.signals.changes c outcome
    | .clock, _ => False

namespace Database

/-- A statement of a call, which reports its failure and goes on otherwise. -/
theorem heeds_statement {c : Call} {s : Statement} {next : s.Result → Statements (Outcome c)}
    (fails : ∀ fault, next (.error fault) = .done (.error (report s fault)))
    (rest : ∀ a, (∀ e, s.unread? a = some e → next (.ok a) = .done (.error e)) ∧
      (s.Changed a → ∃ b, next (.ok a) = .done (.ok b) ∧ c.Changed b) ∧
      (next (.ok a)).Heeds Statement.signals (fun e b => Call.signals.failure c b = some e)
        (Call.signals.changes c)) :
    Program.Heeds Statement.signals (fun e b => Call.signals.failure c b = some e)
      (Call.signals.changes c) (.ask s next) := by
  intro result
  cases result with
  | error fault =>
    refine ⟨fun e told => ?_, False.elim, ?_⟩
    · cases told
      exact ⟨_, fails fault, rfl⟩
    · rw [fails fault]
      trivial
  | ok a =>
    obtain ⟨unread, changed, heeds⟩ := rest a
    refine ⟨fun e told => ⟨_, unread e told, rfl⟩, fun told => ?_, heeds⟩
    obtain ⟨b, ends, changed⟩ := changed told
    exact ⟨_, ends, changed⟩

/-- **The statements of a call** end with the first failure or change, which is that of the call. -/
theorem gateway_heeds (c : Call) :
    (gateway c).Heeds Statement.signals (fun e a => Call.signals.failure c a = some e)
      (Call.signals.changes c) := by
  cases c with
  | insert f =>
    exact heeds_statement (fun _ => rfl) fun _ => ⟨nofun, fun _ => ⟨_, rfl, trivial⟩, trivial⟩
  | find k =>
    refine heeds_statement (fun _ => rfl) fun found => ?_
    rcases found with _ | r
    · exact ⟨nofun, False.elim, trivial⟩
    · -- the row that was selected is reported as it reads
      change (∀ e, Statement.misread? k r = some e → _) ∧ _
      dsimp only [Statement.misread?]
      cases r.toFeature with
      | ok f => exact ⟨nofun, False.elim, trivial⟩
      | error why => exact ⟨fun e told => by cases told; rfl, False.elim, trivial⟩
  | update f =>
    refine heeds_statement (fun _ => rfl) fun n => ?_
    cases n with
    | zero =>
      refine ⟨nofun, fun told => absurd told (Nat.lt_irrefl 0), ?_⟩
      exact heeds_statement (fun _ => rfl) fun _ => ⟨nofun, False.elim, trivial⟩
    | succ n => exact ⟨nofun, fun _ => ⟨_, rfl, rfl⟩, trivial⟩
  | expire k now =>
    refine heeds_statement (fun _ => rfl) fun n => ⟨nofun, fun told => ⟨_, rfl, ?_⟩, trivial⟩
    exact @decide_eq_true _ (Nat.decLt 0 n) told
  | delete k =>
    exact heeds_statement (fun _ => rfl) fun _ => ⟨nofun, fun _ => ⟨_, rfl, trivial⟩, trivial⟩

end Database

/-- The queries that find an answer end with its failure or change. -/
theorem Ask.queries_heed (q : Ask) :
    q.queries.Heeds Query.signals (fun e a => Ask.signals.failure q a = some e)
      (Ask.signals.changes q) := by
  cases q with
  | call c => exact (Database.gateway_heeds c).expand fun s => .asking Query.signals (.statement s)
  | clock => exact .asking Query.signals .clock

/-! ### What operations make of it -/

namespace Stage

/-- **Where an answer leads from a question.**  A failure ends the operation as it is, and a change
ends it well.  An operation fails for no other reason than that an argument is at fault or that
there is no feature under the key of the call. -/
structure Follows (q : Ask) (a : q.Answer) (st : Stage) : Prop where
  failure : ∀ e, Ask.signals.failure q a = some e → st = .finished (.error e)
  change : Ask.signals.changes q a → ∃ reply, st = .finished (.ok reply)
  blame : ∀ e, st = .finished (.error e) → Ask.signals.failure q a = some e ∨
    (∃ why, e = .illegalArgument why) ∨ ∃ c, q = .call c ∧ e = .notFound c.key

namespace Follows

variable {c : Call} {st : Stage}

/-- A failing call. -/
theorem error (e : Failure) : Follows (.call c) (.error e) (.finished (.error e)) where
  failure _ told := by
    cases told
    rfl
  change told := False.elim told
  blame _ ends := by
    cases ends
    exact .inl rfl

/-- A call that succeeds and ends the operation well. -/
theorem ok (a : c.Answer) (reply : Reply) : Follows (.call c) (.ok a) (.finished (.ok reply)) where
  failure _ told := nomatch told
  change _ := ⟨reply, rfl⟩
  blame _ ends := nomatch ends

/-- A call that succeeds without a change, after which the operation goes on. -/
theorem goesOn {a : c.Answer} (still : ¬ c.Changed a) (on : ∀ result, st ≠ .finished result) :
    Follows (.call c) (.ok a) st where
  failure _ told := nomatch told
  change told := absurd told still
  blame e ends := absurd ends (on (.error e))

/-- A call that finds no feature. -/
theorem notFound {a : c.Answer} (still : ¬ c.Changed a) :
    Follows (.call c) (.ok a) (.finished (.error (.notFound c.key))) where
  failure _ told := nomatch told
  change told := absurd told still
  blame _ ends := by
    cases ends
    exact .inr (.inr ⟨c, rfl, rfl⟩)

/-- A clock reading, which can show that an argument is at fault. -/
theorem clock {t : Instant}
    (blame : ∀ e, st = .finished (.error e) → ∃ why, e = .illegalArgument why) :
    Follows .clock t st where
  failure _ told := nomatch told
  change told := False.elim told
  blame e ends := .inr (.inl (blame e ends))

end Follows

/-- **Any answer takes an operation to another stage.** -/
theorem program_next {c : Command} {st : Stage} {q : Ask} {next : q.Answer → Operation Reply}
    (asks : st.program c = .ask q next) (a : q.Answer) :
    ∃ st' : Stage, next a = st'.program c ∧ Follows q a st' := by
  cases st with
  | adding =>
    cases asks
    rcases a with e | _
    · exact ⟨_, rfl, .error e⟩
    · exact ⟨.finished _, rfl, .ok _ _⟩
  | searching =>
    cases asks
    rcases a with e | _ | f
    · exact ⟨_, rfl, .error e⟩
    · exact ⟨_, rfl, .notFound id⟩
    · exact ⟨.judging f, rfl, .goesOn id nofun⟩
  | judging f =>
    cases asks
    cases expired : f.isExpiredAt a with
    | true => exact ⟨.releasing f a, by simp only [expired, if_true]; rfl, .clock nofun⟩
    | false => exact ⟨.finished (.ok (c.report f)), by simp only [expired]; rfl, .clock nofun⟩
  | releasing f now =>
    cases asks
    rcases a with e | _ | _
    · exact ⟨_, rfl, .error e⟩
    · exact ⟨.searchingAgain, rfl, .goesOn nofun nofun⟩
    · exact ⟨.finished _, rfl, .ok _ _⟩
  | searchingAgain =>
    cases asks
    rcases a with e | _ | f
    · exact ⟨_, rfl, .error e⟩
    · exact ⟨_, rfl, .notFound id⟩
    · exact ⟨.finished _, rfl, .ok _ _⟩
  | timing d reasons =>
    cases asks
    cases later : a.after? d with
    | some t =>
      exact ⟨.replacing (lockedFeature c.key reasons t), by simp only [later]; rfl, .clock nofun⟩
    | none =>
      refine ⟨refused (.durationOutOfRange d), by simp only [later]; rfl, .clock ?_⟩
      rintro _ ⟨⟩
      exact ⟨_, rfl⟩
  | replacing f =>
    cases asks
    rcases a with e | _ | _
    · exact ⟨_, rfl, .error e⟩
    · exact ⟨_, rfl, .notFound nofun⟩
    · exact ⟨.finished _, rfl, .ok _ _⟩
  | deleting =>
    cases asks
    rcases a with e | _
    · exact ⟨_, rfl, .error e⟩
    · exact ⟨.finished _, rfl, .ok _ _⟩
  | finished result => cases asks

/-- What is left of an operation at a stage stops at the first signal. -/
theorem program_stops (c : Command) (st : Stage) :
    Program.StopsAt Ask.signals (st.program c) := by
  -- the induction is on what is left to ask, and each answer leads to another stage
  generalize left : st.program c = p
  induction p generalizing st with
  | done result => trivial
  | ask q next ih =>
    intro a
    obtain ⟨st', goesOn, follows⟩ := program_next left a
    refine ⟨fun e told => ⟨.error e, ?_, rfl⟩, fun told => ?_, ih a st' goesOn.symm⟩
    · rw [goesOn, follows.failure e told]
      rfl
    · obtain ⟨reply, ends⟩ := follows.change told
      refine ⟨.ok reply, ?_, reply, rfl⟩
      rw [goesOn, ends]
      rfl

end Stage

/-- **The contract of programs that call the store under one key** and whose calls fail only with
failures that name it. -/
def Ask.naming (k : Key) : Contract Ask Ask.Answer where
  asks := (Ask.under k).asks
  answers q a := ∀ e, Ask.signals.failure q a = some e → e.key? = some k

/-- A failure names a key, or an argument is at fault. -/
def Failure.IsAbout (e : Failure) (k : Key) : Prop :=
  (∃ why, e = .illegalArgument why) ∨ e.key? = some k

/-- What is left of an operation at a stage fails with the key of its calls. -/
theorem Stage.program_names {c : Command} {st : Stage} {k : Key}
    {post : Except Failure Reply → Prop}
    (under : Program.Fulfils (Ask.under k) post (st.program c))
    (about : ∀ e, st = .finished (.error e) → e.IsAbout k) :
    Program.Fulfils (Ask.naming k) (fun result => ∀ e, result = .error e → e.IsAbout k)
      (st.program c) := by
  generalize left : st.program c = p at under ⊢
  induction p generalizing st with
  | done result =>
    rintro e rfl
    exact about e (eq_finished_of_program left)
  | ask q next ih =>
    refine ⟨under.1, fun a named => ?_⟩
    obtain ⟨st', goesOn, follows⟩ := program_next left a
    refine ih a (fun e ends => ?_) goesOn.symm (under.2 a trivial)
    rcases follows.blame e ends with told | argument | ⟨call, rfl, rfl⟩
    · exact .inr (named e told)
    · exact .inl argument
    · exact .inr (congrArg some under.1)

namespace Service

variable (s : Service) (c : Command)

/-- **An operation ends with the first failure or change** of its calls. -/
theorem perform_stops : Program.StopsAt Ask.signals (s.perform c) := by
  rw [perform_eq_program]
  exact Stage.program_stops c _

/-- **An operation ends with the first failure or change** of its statements. -/
theorem queries_stop : (s.queries c).StopsAt Query.signals :=
  (s.perform_stops c).expand Ask.queries_heed

/-- **An operation fails with its key**, if its calls do. -/
theorem perform_names :
    Program.Fulfils (Ask.naming c.key) (fun result => ∀ e, result = .error e → e.IsAbout c.key)
      (s.perform c) := by
  have under := s.perform_under c
  rw [perform_eq_program] at under ⊢
  refine Stage.program_names under fun e ends => ?_
  have opens := Stage.opens_first s c
  rw [ends] at opens
  cases opens
  exact .inl ⟨_, rfl⟩

/-- **An operation fails with its key**, whatever its statements do. -/
theorem queries_name :
    (s.queries c).Fulfils ⟨fun _ => True, fun _ _ => True⟩
      fun result => ∀ e, result = .error e → e.IsAbout c.key := by
  refine (s.perform_names c).expand fun q asks => ?_
  cases q with
  | call call =>
    have key : call.key = c.key := asks
    have calls : call.queries.Fulfils ⟨fun _ => True, fun _ _ => True⟩ _ :=
      (Database.gateway_under call).expand fun _ _ => ⟨trivial, fun _ _ => trivial⟩
    refine calls.mono ?_
    intro outcome named e told
    cases outcome with
    | ok a => cases told
    | error why =>
      cases told
      rw [← key]
      exact named e rfl
  | clock => exact ⟨trivial, fun _ _ => nofun⟩

end Service

/-! ### Stores that count what they change -/

namespace Database

/-- **An UPDATE that counts no row has changed nothing.** -/
def IsSteady (db : Database) : Prop :=
  ∀ k columns,
    (execute (.update k columns) db).1 = .ok (0 : Nat) → (execute (.update k columns) db).2 = db

variable {db : Database}

theorem setWhere_of_affected {rows : List Row} {selected : Row → Bool} {columns : Columns}
    {counting : Counting} (none : affected counting rows selected columns = 0) :
    setWhere rows selected columns = rows := by
  cases counting with
  | matched =>
    refine setWhere_of_not_selected fun r mem => ?_
    simpa using List.countP_eq_zero.mp none r mem
  | changed =>
    -- a row that is selected has the columns already, since it is not counted
    refine (List.map_congr_left fun r mem => ?_).trans (List.map_id rows)
    have same := List.countP_eq_zero.mp none r mem
    split
    · next sets =>
      simp only [sets, Bool.true_and, bne_iff_ne, ne_eq, not_not] at same
      rw [← same]
      rfl
    · rfl

/-- An UPDATE that counts no row leaves the rows. -/
theorem updateWhere_of_affected {rows : List Row} {selected : Row → Bool} {columns : Columns}
    (table : db.table = some rows) (none : (db.updateWhere rows selected columns).1 = 0) :
    (db.updateWhere rows selected columns).2 = db := by
  cases frozen : db.frozen with
  | true => simp only [updateWhere, frozen, if_true]
  | false =>
    simp only [updateWhere, frozen, Bool.false_eq_true, if_false] at none ⊢
    rw [setWhere_of_affected none, ← table, ← frozen]

/-- A table in which nothing is stray is steady. -/
theorem isSteady_of_no_strays (tidy : db.strays = []) : db.IsSteady := by
  -- an UPDATE also forgets strays, whatever it counts, so that counting alone is not enough
  intro k columns none
  cases table : db.table with
  | none => simp only [execute, table]
  | some rows =>
    simp only [execute, table] at none ⊢
    rw [updateWhere_of_affected table (Except.ok.inj none)]
    split
    · rfl
    · simp only [forget, tidy, List.filter_nil]
      rw [← tidy]

/-- **A statement tells of every change.** -/
theorem execute_tells (steady : db.IsSteady) (s : Statement) :
    Statement.signals.changes s (execute s db).1 ∨ (execute s db).2 = db := by
  cases table : db.table with
  | none =>
    refine .inr ?_
    simp only [execute, table]
  | some rows =>
    cases s with
    | insert r =>
      simp only [execute, table]
      split
      · exact .inr rfl
      · exact .inl trivial
    | select k =>
      refine .inr ?_
      simp only [execute, table]
    | update k columns =>
      by_cases none : (execute (.update k columns) db).1 = .ok (0 : Nat)
      · exact .inr (steady k columns none)
      · simp only [execute, table] at none ⊢
        exact .inl (Nat.pos_of_ne_zero fun zero => none (congrArg Except.ok zero))
    | count k =>
      refine .inr ?_
      simp only [execute, table]
    | expire k now =>
      simp only [execute, table]
      split
      · next none => exact .inr (updateWhere_of_affected table none)
      · next counted => exact .inl (Nat.pos_of_ne_zero counted)
    | delete k =>
      simp only [execute, table]
      exact .inl trivial

end Database

namespace Memory

/-- **A call tells of every change.** -/
theorem answer_tells (c : Call) (m : Memory) :
    Call.signals.changes c (m.answer c).1 ∨ (m.answer c).2 = m := by
  cases c with
  | insert f =>
    simp only [answer]
    split
    · exact .inr rfl
    · exact .inl trivial
  | find k => exact .inr rfl
  | update f =>
    simp only [answer]
    split
    · exact .inl rfl
    · exact .inr rfl
  | expire k now =>
    simp only [answer]
    split
    · split
      · exact .inl rfl
      · exact .inr rfl
    · exact .inr rfl
  | delete k => exact .inl trivial

end Memory

namespace Store

/-- An update that counts no row has changed nothing. -/
def IsSteady : Store → Prop
  | memory _ => True
  | database db => db.IsSteady

/-- **A call tells of every change.** -/
theorem answer_tells {s : Store} (steady : s.IsSteady) (c : Call) :
    Call.signals.changes c (s.answer c).1 ∨ (s.answer c).2 = s := by
  cases s with
  | memory m => exact (m.answer_tells c).imp_right (congrArg memory)
  | database db =>
    have tells := (Database.gateway_heeds c).run (Database.execute_tells steady)
    exact tells.imp_right (congrArg database)

/-- A call that fails names its key. -/
theorem key_of_error {s : Store} {c : Call} {e : Failure} (failed : (s.answer c).1 = .error e) :
    e.key? = some c.key := by
  cases s with
  | database db =>
    have keeps : ∀ (s : Statement) (db : Database), (Statement.under c.key).asks s → True →
        (Statement.under c.key).answers s (Database.execute s db).1 ∧ True :=
      fun _ _ _ _ => ⟨trivial, trivial⟩
    exact ((Database.gateway_under c).run_keeps keeps trivial).1 e failed
  | memory m =>
    cases c with
    | insert f =>
      simp only [answer, Memory.answer] at failed
      split at failed
      · cases failed
        rfl
      · cases failed
    | update f =>
      simp only [answer, Memory.answer] at failed
      split at failed <;> cases failed
    | expire k now =>
      simp only [answer, Memory.answer] at failed
      split at failed
      · split at failed <;> cases failed
      · cases failed
    | _ => cases failed

end Store

/-! ### Runs of one operation -/

/-- A session in which no hook waits stays so. -/
theorem Session.quiet_answer (q : Ask) (s : Session) (quiet : s.hooks = []) :
    (s.answer q).2.hooks = [] := by
  cases q with
  | call c =>
    rw [answer_call quiet]
    exact quiet
  | clock => exact quiet

/-- A session in which no hook waits tells of every change, and no hook waits afterwards. -/
theorem Session.answer_tells {store : Store} (steady : store.IsSteady) (q : Ask) (s : Session)
    (still : s.store = store ∧ s.hooks = []) :
    Ask.signals.changes q (Session.world.answer q s).1 ∨
      ((Session.world.answer q s).2.store = store ∧ (Session.world.answer q s).2.hooks = []) := by
  obtain ⟨rfl, quiet⟩ := still
  cases q with
  | call call =>
    simp only [Session.world, answer_call quiet]
    exact (Store.answer_tells steady call).imp_right fun same => ⟨same, quiet⟩
  | clock => exact .inr ⟨rfl, quiet⟩

/-- A database with a clock tells of every change. -/
theorem Database.world_tells {db : Database} (steady : db.IsSteady) (q : Query)
    (s : Database × Instant) (still : s.1 = db) :
    Query.signals.changes q (Database.world.answer q s).1 ∨
      (Database.world.answer q s).2.1 = db := by
  subst still
  cases q with
  | statement statement => exact execute_tells steady statement
  | clock => exact .inr rfl

namespace Service

variable {s : Service} {c : Command} {now : Instant} {store : Store}
  {schedule : Nat → Happening Unit Failure}

/-- **The failures that an operation receives name its key**, if those do that its calls are made to
fail with. -/
theorem names_of_receives {k : Key} (named : ∀ n e, schedule n = .failure () e → e.key? = some k)
    (n : Nat) (q : Ask) (a : q.Answer)
    (received : (s.callByCall store now (fun _ => c) schedule).Receives () n q a)
    (asks : (Ask.naming k).asks q) : (Ask.naming k).answers q a := by
  cases q with
  | clock => exact nofun
  | call call =>
    have key : call.key = k := asks
    rintro e told
    rcases received with ⟨-, answered⟩ | ⟨why, next, event, -, fails⟩
    · have quiet := (s.callByCall store now (fun _ => c) schedule).state_keeps
        (fun s => s.hooks = []) rfl Session.quiet_answer (fun _ _ => id) n
      simp only [callByCall, Session.world] at answered quiet
      rw [Session.answer_call quiet] at answered
      rw [← key]
      cases a with
      | ok a => cases told
      | error why =>
        cases told
        exact Store.key_of_error answered
    · obtain rfl := Option.some.inj fails
      cases told
      exact named n e event

end Service

/-- **An operation that fails has changed nothing.**  An operation of any kind runs alone on any
store, while the clock is set in any way and any of its calls are made to fail.

- If it comes to a failure, the store is at all moments as it was at first.
- A call that fails ends it, for good, with the failure of that call.
- It fails with its own key, if the calls do that are made to fail, unless an argument is at fault.

The same holds on any database whose statements are made to fail, between the statements of a call,
too, and for any reason.  What a statement fails with is reported under the code and the key of the
statement, also that two rows would share a key, unless the statement is an INSERT; then there is
such a feature.  A row that cannot be decoded is a failure of its own.

Of the store or database it is assumed that an UPDATE that counts no row has changed nothing. -/
theorem failed_operations_change_nothing (service : Service) (c : Command) (now : Instant) :
    (∀ (store : Store) (schedule : Nat → Happening Unit Failure), store.IsSteady →
      let r := service.callByCall store now (fun _ => c) schedule
      (∀ n e, r.pending () n = .done (.error e) → ∀ m, (r.state m).store = store) ∧
      (∀ n call e, r.Receives () n (.call call) (.error e) →
        ∀ m, n < m → r.pending () m = .done (.error e)) ∧
      ((∀ n e, schedule n = .failure () e → e.key? = some c.key) →
        ∀ n e, r.pending () n = .done (.error e) →
          (∃ why, e = .illegalArgument why) ∨ e.key? = some c.key)) ∧
    ∀ (db : Database) (schedule : Nat → Happening Unit StatementFault), db.IsSteady →
      let r := service.statementByStatement db now (fun _ => c) schedule
      (∀ n e, r.pending () n = .done (.error e) → ∀ m, (r.state m).1 = db) ∧
      (∀ n statement fault, r.Receives () n (.statement statement) (.error fault) →
        ∀ m, n < m →
          r.pending () m = .done (.error (Database.report statement fault))) ∧
      (∀ n k (row : Row) e, r.Receives () n (.statement (.select k)) (Except.ok (some row)) →
        row.toFeature = .error e →
          ∀ m, n < m → r.pending () m = .done (.error (.server .decode k (.undecodable e)))) ∧
      ∀ n e, r.pending () n = .done (.error e) →
        (∃ why, e = .illegalArgument why) ∨ e.key? = some c.key := by
  have failed : ∀ e : Failure, ¬ ∃ reply : Reply, .error e = Except.ok reply := nofun
  constructor
  · intro store schedule steady r
    have stops : (r.start.pending ()).StopsAt _ := service.perform_stops c
    refine ⟨fun n e done m => ?_, fun n call e received => ?_, fun named n e done => ?_⟩
    · exact (Run.keeps_of_unchanged (fun s => s.store = store ∧ s.hooks = []) stops ⟨rfl, rfl⟩
        (Session.answer_tells steady) (fun _ _ => id) done (failed e) m).1
    · obtain ⟨b, rfl, done⟩ := Run.done_of_failure stops received rfl
      exact done
    · have fulfils := Run.fulfils_of_receives (r := r) (Service.names_of_receives named)
        (service.perform_names c) n
      rw [done] at fulfils
      exact fulfils e rfl
  · intro db schedule steady r
    have stops : (r.start.pending ()).StopsAt _ := service.queries_stop c
    refine ⟨fun n e done m => ?_, fun n statement fault received => ?_,
      fun n k row e received unread => ?_, fun n e done => ?_⟩
    · exact Run.keeps_of_unchanged (fun s => s.1 = db) stops rfl (Database.world_tells steady)
        (fun _ _ => id) done (failed e) m
    · obtain ⟨b, rfl, done⟩ := Run.done_of_failure stops received rfl
      exact done
    · have told : Statement.misread? k row = some (.server .decode k (.undecodable e)) := by
        rw [Statement.misread?, unread]
      obtain ⟨b, rfl, done⟩ := Run.done_of_failure stops received told
      exact done
    · have fulfils := Run.fulfils (r := r) (i := ()) (fun _ _ => trivial) (service.queries_name c) n
      rw [done] at fulfils
      exact fulfils e rfl

/-! ### Two refusals -/

/-- A read finds an expired lock, and is refused its release. -/
def refusedRelease : Run Unit Ask Ask.Answer Failure Session (Except Failure Reply) :=
  Service.callByCall ⟨.empty, standardDuration⟩
    (.memory ⟨[⟨⟨1, "alice", "api"⟩, true, 10, ["fraud"], ["fraud"]⟩]⟩) 20
    (fun _ => .isLocked ⟨1, "alice", "api"⟩) fun
      | 2 => .failure () (.server .expire ⟨1, "alice", "api"⟩ .refused)
      | _ => .turn ()

/-- An UPDATE is ignored, and the count that is to tell why is refused. -/
def refusedCount :
    Run Unit Query Query.Answer StatementFault (Database × Instant) (Except Failure Reply) :=
  Service.statementByStatement ⟨.empty, standardDuration⟩
    ⟨some [⟨⟨1, "alice", "api"⟩, ⟨true, 10, some "[", none⟩⟩], true, .matched, []⟩ 20
    (fun _ => .unlock ⟨1, "alice", "api"⟩) fun
      | 1 => .failure () (.failed .refused)
      | _ => .turn ()

/-- Both end in the failure that they received, and neither has changed anything. -/
theorem refusals_change_nothing :
    (∀ m, 2 < m → refusedRelease.pending () m =
        .done (.error (.server .expire ⟨1, "alice", "api"⟩ .refused))) ∧
      (∀ m, (refusedRelease.state m).store = (refusedRelease.state 0).store) ∧
      (∀ m, 1 < m → refusedCount.pending () m =
        .done (.error (.server .find ⟨1, "alice", "api"⟩ .refused))) ∧
      ∀ m, (refusedCount.state m).1 = (refusedCount.state 0).1 := by
  have refused : refusedRelease.Receives () 2 (.call (.expire ⟨1, "alice", "api"⟩ 20))
      (.error (.server .expire ⟨1, "alice", "api"⟩ .refused)) := .inr ⟨_, _, rfl, rfl, rfl⟩
  have refused' : refusedCount.Receives () 1 (.statement (.count ⟨1, "alice", "api"⟩))
      (.error (.failed .refused)) := .inr ⟨_, _, rfl, rfl, rfl⟩
  obtain ⟨kept, ends, -⟩ := (failed_operations_change_nothing ⟨.empty, standardDuration⟩
    (.isLocked ⟨1, "alice", "api"⟩) 20).1 (refusedRelease.state 0).store refusedRelease.schedule
      trivial
  obtain ⟨kept', ends', -⟩ := (failed_operations_change_nothing ⟨.empty, standardDuration⟩
    (.unlock ⟨1, "alice", "api"⟩) 20).2 (refusedCount.state 0).1 refusedCount.schedule
      (Database.isSteady_of_no_strays rfl)
  have released := ends 2 _ _ refused
  have counted := ends' 1 _ _ refused'
  exact ⟨released, kept 3 _ (released 3 (by decide)), counted, kept' 2 _ (counted 2 (by decide))⟩

end FeatureLock
