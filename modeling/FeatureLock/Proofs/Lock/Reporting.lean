import FeatureLock.Proofs.Lock.Replacement
import FeatureLock.Proofs.Store.Restriction

/-!
# Under which code a failure is reported

A call is one statement or two, and any of them may fail: for a reason of the database's
own, or because it is refused.  The failure of the first one is reported under the code
of the call, except for the key that an INSERT finds taken.  The second one, the count
that follows an UPDATE without a row, is shared with searches, and is reported as the
failure of a search.

## Main Definitions

- `Database.executeUnless`, `Database.answerUnless`, `Database.askUnless`: statements,
  calls and the questions of an operation, where some statements are refused
- `Call.opening`: the statement with which a call begins
- `Call.FailsAs`: the ways in which a call fails, and what is reported then
- `Call.FindsTaken`: what makes an insertion report that there is such a feature

Main statements: `Database.answerUnless_eq_error_iff`, a call fails in these ways only and
reports each; `failures_name_the_statement`; and `failed_count_is_reported_as_search`, a
lock that is reported to have failed as a search.

## Design Notes

Refusals are given by the place of a statement among all that are executed.  So any choice
of statements can be refused, for any reason, and a statement need not be reached.  What is
refused has no effect; what came before it has.  An UPDATE can be refused because two rows
would share a key, as well; only an INSERT takes that for a feature that exists.
-/

namespace FeatureLock

namespace Database

/-! ### Some statements are refused -/

/-- **A statement, unless it is refused.**  The database is kept with the number of statements so
far. -/
def executeUnless (refusals : Nat → Option StatementFault) (s : Statement) (x : Database × Nat) :
    s.Result × (Database × Nat) :=
  match refusals x.2 with
  | some fault => (.error fault, x.1, x.2 + 1)
  | none => ((execute s x.1).1, (execute s x.1).2, x.2 + 1)

/-- A call, some of whose statements are refused. -/
def answerUnless (refusals : Nat → Option StatementFault) (c : Call) (x : Database × Nat) :
    Outcome c × (Database × Nat) :=
  (gateway c).run (executeUnless refusals) x

/-- What an operation asks of a database that refuses some statements, and of a clock. -/
def askUnless (refusals : Nat → Option StatementFault) :
    (q : Ask) → (Database × Nat) × Instant → q.Answer × ((Database × Nat) × Instant)
  | .call c, (x, now) => ((answerUnless refusals c x).1, (answerUnless refusals c x).2, now)
  | .clock, (x, now) => (now, x, now)

variable {refusals : Nat → Option StatementFault} {db : Database} {n : Nat}

theorem executeUnless_of_refused {fault : StatementFault} (refused : refusals n = some fault)
    (s : Statement) : executeUnless refusals s (db, n) = (.error fault, db, n + 1) := by
  simp only [executeUnless, refused]

theorem executeUnless_of_accepted (accepted : refusals n = none) (s : Statement) :
    executeUnless refusals s (db, n) = ((execute s db).1, (execute s db).2, n + 1) := by
  simp only [executeUnless, accepted]

/-- **Where no statement is refused a call is answered as ever.** -/
theorem answerUnless_never (c : Call) (db : Database) (n : Nat) :
    (answerUnless (fun _ => none) c (db, n)).1 = (db.answer c).1 ∧
      (answerUnless (fun _ => none) c (db, n)).2.1 = (db.answer c).2 := by
  have alike : ∀ (s : Statement) (x : Database × Nat) (y : Database), x.1 = y →
      (executeUnless (fun _ => none) s x).1 = (execute s y).1 ∧
        (executeUnless (fun _ => none) s x).2.1 = (execute s y).2 := by
    rintro s x y rfl
    exact ⟨rfl, rfl⟩
  exact Program.run_related alike (gateway c) rfl

/-! ### Statements that succeed -/

/-- No statement takes the table away. -/
theorem isSome_table_execute (s : Statement) (db : Database) :
    (execute s db).2.table.isSome = db.table.isSome := by
  have updated : ∀ rows selected columns, db.table = some rows →
      (db.updateWhere rows selected columns).2.table.isSome = true := by
    intro rows selected columns table
    simp only [updateWhere]
    split
    · rw [table]
      rfl
    · rfl
  simp only [execute]
  split
  · rfl
  · next rows table =>
    rw [table]
    cases s with
    | insert r =>
      simp only
      split
      · rw [table]
      · rfl
    | update k columns =>
      simp only
      split <;> exact updated _ _ _ table
    | expire k now =>
      simp only
      split <;> exact updated _ _ _ table
    | delete k => rfl
    | _ => simp only [table]

/-- Without a table every statement fails. -/
theorem isSome_table_of_ok {s : Statement} {a : s.Answer} (ok : (execute s db).1 = .ok a) :
    db.table.isSome = true := by
  cases table : db.table with
  | none =>
    simp only [execute, table] at ok
    cases ok
  | some rows => rfl

/-- **A count that is not refused succeeds where a statement has succeeded before.** -/
theorem count_of_ok {s : Statement} {a : s.Answer} (ok : (execute s db).1 = .ok a) (k : Key) :
    ∃ rows : Nat, (execute (.count k) (execute s db).2).1 = .ok rows := by
  have table := (isSome_table_execute s db).trans (isSome_table_of_ok ok)
  generalize (execute s db).2 = after at table
  obtain ⟨rows, table⟩ := Option.isSome_iff_exists.mp table
  refine ⟨rows.countP (·.key = k), ?_⟩
  simp only [execute, table]

end Database

/-! ### The ways to fail -/

namespace Call

open Database

/-- The statement with which a call begins. -/
def opening : Call → Statement
  | insert f => .insert (.ofFeature f)
  | find k => .select k
  | update f => .update f.key (.ofFeature f)
  | expire k now => .expire k now
  | delete k => .delete k

/-- **The ways in which a call fails**, begun as the statement number `n` on a database, and what is
reported then. -/
inductive FailsAs (refusals : Nat → Option StatementFault) (db : Database) (n : Nat) :
    Call → Failure → Prop where
  /-- its first statement is refused -/
  | refused {c : Call} {fault : StatementFault} (refused : refusals n = some fault) :
    FailsAs refusals db n c (report c.opening fault)
  /-- its first statement fails on the database -/
  | failed {c : Call} {fault : StatementFault} (accepted : refusals n = none)
    (fails : (execute c.opening db).1 = .error fault) :
    FailsAs refusals db n c (report c.opening fault)
  /-- a text of the row that is found is no list of reasons -/
  | undecodable {k : Key} {r : Row} {why : Json.Fault} (accepted : refusals n = none)
    (selects : db.Selects k (some r)) (misread : r.toFeature = .error why) :
    FailsAs refusals db n (.find k) (.server .decode k (.undecodable why))
  /-- the UPDATE counts no row, and the count that follows is refused -/
  | uncounted {f : Feature} {fault : StatementFault} (accepted : refusals n = none)
    (none : (execute (.update f.key (.ofFeature f)) db).1 = .ok (0 : Nat))
    (refused : refusals (n + 1) = some fault) :
    FailsAs refusals db n (.update f) (report (.count f.key) fault)

end Call

namespace Database

variable {refusals : Nat → Option StatementFault} {db : Database} {n : Nat} {c : Call}

/-- A call begins with a statement whose failure it reports. -/
theorem gateway_begins (c : Call) :
    ∃ next, gateway c = .ask c.opening next ∧
      ∀ fault, next (.error fault) = .done (.error (report c.opening fault)) := by
  cases c <;> exact ⟨_, rfl, fun _ => rfl⟩

theorem answerUnless_of_refused {fault : StatementFault} (refused : refusals n = some fault)
    (c : Call) : (answerUnless refusals c (db, n)).1 = .error (report c.opening fault) := by
  obtain ⟨next, begins, reports⟩ := gateway_begins c
  rw [answerUnless, begins, Program.run_ask, executeUnless_of_refused refused, reports]
  rfl

theorem answerUnless_of_failed (accepted : refusals n = none) {fault : StatementFault}
    (fails : (execute c.opening db).1 = .error fault) :
    (answerUnless refusals c (db, n)).1 = .error (report c.opening fault) := by
  obtain ⟨next, begins, reports⟩ := gateway_begins c
  rw [answerUnless, begins, Program.run_ask, executeUnless_of_accepted accepted, fails, reports]
  rfl

theorem answerUnless_of_ok (accepted : refusals n = none)
    {next : c.opening.Result → Statements (Outcome c)} (begins : gateway c = .ask c.opening next)
    {a : c.opening.Answer} (ok : (execute c.opening db).1 = .ok a) :
    answerUnless refusals c (db, n) =
      (next (.ok a)).run (executeUnless refusals) ((execute c.opening db).2, n + 1) := by
  rw [answerUnless, begins, Program.run_ask, executeUnless_of_accepted accepted, ok]

/-- What a search answers whose SELECT has succeeded. -/
theorem answerUnless_find (accepted : refusals n = none) {k : Key} {found : Option Row}
    (selects : db.Selects k found) :
    (answerUnless refusals (.find k) (db, n)).1 =
      match found with
      | none => .ok none
      | some r => Call.readRow k r := by
  rw [answerUnless_of_ok (c := .find k) accepted rfl selects]
  cases found with
  | none => rfl
  | some r =>
    simp only [Call.readRow]
    cases r.toFeature <;> rfl

/-- A count that would succeed fails only if it is refused, and is then reported as a search. -/
theorem rowExists_cases (refusals : Nat → Option StatementFault) (n : Nat) {k : Key}
    (counts : ∃ rows : Nat, (execute (.count k) db).1 = .ok rows) :
    (refusals n = none ∧
      ∃ found : Bool, ((rowExists k).run (executeUnless refusals) (db, n)).1 = .ok found) ∨
    ∃ fault, refusals n = some fault ∧
      ((rowExists k).run (executeUnless refusals) (db, n)).1 =
        .error (report (.count k) fault) := by
  rw [rowExists, Program.run_ask]
  cases refused : refusals n with
  | none =>
    obtain ⟨rows, ok⟩ := counts
    rw [executeUnless_of_accepted refused, ok]
    exact .inl ⟨rfl, _, rfl⟩
  | some fault =>
    rw [executeUnless_of_refused refused]
    exact .inr ⟨fault, rfl, rfl⟩

/-- An update whose UPDATE has succeeded is done, or asks whether there is a row. -/
theorem answerUnless_update (accepted : refusals n = none) {f : Feature} {counted : Nat}
    (ok : (execute (.update f.key (.ofFeature f)) db).1 = .ok counted) :
    (answerUnless refusals (.update f) (db, n)).1 =
      if 0 < counted then .ok true
      else ((rowExists f.key).run (executeUnless refusals)
        ((execute (.update f.key (.ofFeature f)) db).2, n + 1)).1 := by
  rw [answerUnless_of_ok (c := .update f) accepted rfl ok]
  cases counted <;> rfl

/-- An update whose UPDATE has succeeded fails only with the count that follows. -/
theorem failsAs_of_update (accepted : refusals n = none) {f : Feature} {counted : Nat}
    (ok : (execute (.update f.key (.ofFeature f)) db).1 = .ok counted) {e : Failure}
    (fails : (answerUnless refusals (.update f) (db, n)).1 = .error e) :
    (Call.update f).FailsAs refusals db n e := by
  rw [answerUnless_update accepted ok] at fails
  split at fails
  · cases fails
  · next none =>
    obtain rfl : counted = 0 := Nat.eq_zero_of_not_pos none
    rcases rowExists_cases refusals (n + 1) (count_of_ok ok f.key) with
      ⟨-, found, ok⟩ | ⟨fault, refused, failed⟩
    · cases ok.symm.trans fails
    · cases failed.symm.trans fails
      exact .uncounted accepted ok refused

/-- **A call fails in these ways only, and reports each of them.** -/
theorem answerUnless_eq_error_iff {e : Failure} :
    (answerUnless refusals c (db, n)).1 = .error e ↔ c.FailsAs refusals db n e := by
  constructor
  · intro fails
    cases accepted : refusals n with
    | some fault =>
      rw [answerUnless_of_refused accepted] at fails
      cases fails
      exact .refused accepted
    | none =>
      cases executed : (execute c.opening db).1 with
      | error fault =>
        rw [answerUnless_of_failed accepted executed] at fails
        cases fails
        exact .failed accepted executed
      | ok a =>
        cases c with
        | find k =>
          rw [answerUnless_find accepted executed] at fails
          rcases a with _ | r
          · cases fails
          · simp only [Call.readRow] at fails
            split at fails
            · cases fails
            · next why misread =>
              cases fails
              exact .undecodable accepted executed misread
        | update f =>
          exact failsAs_of_update accepted executed fails
        | insert f =>
          rw [answerUnless_of_ok accepted rfl executed] at fails
          cases fails
        | expire k now =>
          rw [answerUnless_of_ok accepted rfl executed] at fails
          cases fails
        | delete k =>
          rw [answerUnless_of_ok accepted rfl executed] at fails
          cases fails
  · intro fails
    cases fails with
    | refused refused => exact answerUnless_of_refused refused c
    | failed accepted fails => exact answerUnless_of_failed accepted fails
    | undecodable accepted selects misread =>
      rw [answerUnless_find accepted selects]
      simp only [Call.readRow, misread]
    | uncounted accepted none refused =>
      rw [answerUnless_update accepted none, if_neg (Nat.lt_irrefl 0)]
      rcases rowExists_cases refusals (n + 1) (count_of_ok none _) with
        ⟨accepted', -⟩ | ⟨fault', refused', failed⟩
      · rw [refused] at accepted'
        cases accepted'
      · rw [refused] at refused'
        cases refused'
        exact failed

end Database

/-! ### Codes -/

namespace Call

variable {refusals : Nat → Option StatementFault} {db : Database} {n : Nat} {c : Call}
  {e : Failure}

/-- A call begins with a statement under its own key. -/
theorem key_opening (c : Call) : c.opening.key = c.key := by
  cases c <;> rfl

/-- A call begins with a statement whose failures have the code of the call. -/
theorem code_opening (c : Call) : c.opening.code = c.kind.code := by
  cases c <;> rfl

/-- An INSERT begins nothing but an insertion. -/
theorem eq_insert_of_opening {r : Row} (opens : c.opening = .insert r) :
    ∃ f, c = .insert f ∧ r.key = f.key := by
  cases c with
  | insert f =>
    cases opens
    exact ⟨f, rfl, rfl⟩
  | _ => cases opens

/-- **A call finds a key taken**: its first statement is refused for that, or meets a row of the
key. -/
def FindsTaken (refusals : Nat → Option StatementFault) (db : Database) (n : Nat) (c : Call) :
    Prop :=
  refusals n = some .duplicate ∨
    refusals n = none ∧ (Database.execute c.opening db).1 = .error .duplicate

/-- What is reported of the first statement. -/
theorem opening_cases {fault : StatementFault}
    (happens : refusals n = some fault ∨
      refusals n = none ∧ (Database.execute c.opening db).1 = .error fault) :
    ((Database.report c.opening fault).isServerError = true ∧
        (Database.report c.opening fault).code = c.kind.code) ∨
      ∃ f, c = .insert f ∧ Database.report c.opening fault = .alreadyExists f.key ∧
        c.FindsTaken refusals db n := by
  rcases Database.report_cases c.opening fault with server | ⟨r, opens, rfl, taken⟩
  · rw [server]
    exact .inl ⟨rfl, c.code_opening⟩
  · obtain ⟨f, isInsert, key⟩ := eq_insert_of_opening opens
    rw [key] at taken
    exact .inr ⟨f, isInsert, taken, happens⟩

namespace FailsAs

/-- A failure names the key of its call. -/
theorem key (fails : c.FailsAs refusals db n e) : e.key? = some c.key := by
  cases fails with
  | refused _ => exact (Database.key_report _ _).trans (congrArg some c.key_opening)
  | failed _ _ => exact (Database.key_report _ _).trans (congrArg some c.key_opening)
  | _ => rfl

/-- **A failure has the code of its call**, unless a key was taken, a text could not be decoded or
the count that follows an UPDATE was refused. -/
theorem code_cases (fails : c.FailsAs refusals db n e) :
    (e.isServerError = true ∧ e.code = c.kind.code) ∨
      (∃ f, c = .insert f ∧ e = .alreadyExists f.key ∧ c.FindsTaken refusals db n) ∨
      (∃ k why, c = .find k ∧ e = .server .decode k (.undecodable why)) ∨
      ∃ f fault, c = .update f ∧ refusals n = none ∧ refusals (n + 1) = some fault ∧
        e = .server .find f.key fault.cause := by
  cases fails with
  | refused refused => exact (opening_cases (.inl refused)).imp_right .inl
  | failed accepted fails => exact (opening_cases (.inr ⟨accepted, fails⟩)).imp_right .inl
  | undecodable accepted selects misread => exact .inr (.inr (.inl ⟨_, _, rfl, rfl⟩))
  | uncounted accepted none refused =>
    exact .inr (.inr (.inr ⟨_, _, rfl, accepted, refused, rfl⟩))

end FailsAs

end Call

/-- A replacement fails as its update does, or because there is no feature. -/
theorem Stage.run_replace_of_error {refusals : Nat → Option StatementFault}
    {x : (Database × Nat) × Instant} {f : Feature} {e : Failure}
    (failed : (Program.run (Database.askUnless refusals) (Stage.replace f) x).1 = .error e) :
    e = .notFound f.key ∨ (Database.answerUnless refusals (.update f) x.1).1 = .error e := by
  simp only [Stage.replace, Program.run_ask, Database.askUnless] at failed
  cases answered : (Database.answerUnless refusals (.update f) x.1).1 with
  | error e' =>
    rw [answered] at failed
    cases failed
    exact .inr rfl
  | ok found =>
    rw [answered] at failed
    cases (found : Bool) with
    | true => cases failed
    | false =>
      cases failed
      exact .inl rfl

/-- **What an operation that locks or unlocks reports when it fails.** -/
theorem Service.code_of_replacement {refusals : Nat → Option StatementFault} {db : Database}
    (service : Service) {now : Instant} {c : Command} {e : Failure} (replaces : c.IsReplacement)
    (failed : (Program.run (Database.askUnless refusals) (service.perform c) ((db, 0), now)).1 =
      .error e) :
    (∃ why, e = .illegalArgument why) ∨ e = .notFound c.key ∨
      (e.isServerError = true ∧ e.key? = some c.key ∧
        (e.code = .update ∨
          (e.code = .find ∧ refusals 0 = none ∧ (refusals 1).isSome = true))) := by
  have clock : Database.askUnless refusals .clock ((db, 0), now) = (now, (db, 0), now) := rfl
  rcases service.run_replacement clock replaces with ⟨why, ran⟩ | ⟨f, key, ran⟩
  · rw [ran] at failed
    cases failed
    exact .inl ⟨why, rfl⟩
  · rw [ran] at failed
    rcases Stage.run_replace_of_error failed with rfl | failed
    · exact .inr (.inl (by rw [key]))
    · have fails := Database.answerUnless_eq_error_iff.mp failed
      refine .inr (.inr ?_)
      rcases fails.code_cases with ⟨server, code⟩ | ⟨_, other, -, -⟩ | ⟨_, _, other, -⟩ |
        ⟨g, fault, same, accepted, refused, rfl⟩
      · exact ⟨server, fails.key.trans (congrArg some key), .inl code⟩
      · cases other
      · cases other
      · cases same
        refine ⟨rfl, congrArg some key, .inr ⟨rfl, accepted, ?_⟩⟩
        rw [refused]
        rfl

/-- **A failure names the statement that failed.**  Take any database, and let any of the statements
be refused for any reason, or none.  A call then fails in the ways listed only, and each of them is
reported with its key; the code is that of the call, except that the key of an insertion may be
taken, that the row found may hold a text that cannot be decoded, and that a refused count after an
UPDATE is reported under the code of a search.  That two rows would share a key is a failure of the
store for every call but an insertion.

So an operation that locks or unlocks, and is not told that an argument is bad or that there is no
feature, reports that the update failed, or that the search did if the count was refused. -/
theorem failures_name_the_statement (refusals : Nat → Option StatementFault) (db : Database) :
    (∀ (n : Nat) (c : Call),
      (Database.answerUnless (fun _ => none) c (db, n)).1 = (db.answer c).1) ∧
    (∀ (n : Nat) (c : Call) (e : Failure),
      (Database.answerUnless refusals c (db, n)).1 = .error e ↔ c.FailsAs refusals db n e) ∧
    (∀ (n : Nat) (c : Call) (e : Failure), c.FailsAs refusals db n e → e.key? = some c.key ∧
      ((e.isServerError = true ∧ e.code = c.kind.code) ∨
        (∃ f, c = .insert f ∧ e = .alreadyExists f.key ∧ c.FindsTaken refusals db n) ∨
        (∃ k why, c = .find k ∧ e = .server .decode k (.undecodable why)) ∨
        ∃ f fault, c = .update f ∧ refusals n = none ∧ refusals (n + 1) = some fault ∧
          e = .server .find f.key fault.cause)) ∧
    ∀ (service : Service) (now : Instant) (c : Command) (e : Failure), c.IsReplacement →
      (Program.run (Database.askUnless refusals) (service.perform c) ((db, 0), now)).1 = .error e →
      (∃ why, e = .illegalArgument why) ∨ e = .notFound c.key ∨
        (e.isServerError = true ∧ e.key? = some c.key ∧
          (e.code = .update ∨
            (e.code = .find ∧ refusals 0 = none ∧ (refusals 1).isSome = true))) := by
  exact ⟨fun n c => (Database.answerUnless_never c db n).1,
    fun n c e => Database.answerUnless_eq_error_iff,
    fun n c e fails => ⟨fails.key, fails.code_cases⟩,
    fun service now c e replaces failed => service.code_of_replacement replaces failed⟩

/-- **A lock can be reported to have failed as a search**: there is no row, so the UPDATE counts
none, and the count that follows is refused. -/
theorem failed_count_is_reported_as_search :
    let k : Key := ⟨1, "alice", "api"⟩
    let refusals : Nat → Option StatementFault := fun n =>
      if n = 1 then some (.failed .refused) else none
    let db : Database := ⟨some [], false, .matched, []⟩
    let lock : Operation Reply :=
      Service.perform ⟨.empty, standardDuration⟩ (.lock k none ["fraud"])
    (Program.run (Database.askUnless refusals) lock ((db, 0), 1000)).1 =
        .error (.server .find k .refused) ∧
      (Failure.server .find k .refused).code ≠ .update := by
  decide +kernel

end FeatureLock
