import FeatureLock.Program
import FeatureLock.Store.Datum
import FeatureLock.Store.Gateway
import FeatureLock.Store.Row

/-!
# Features in a database table

The table has one row for each key.  A call on the store is a program of one or
two statements; each statement is one step on the table.

## Main Definitions

- `Statement`, `Database.execute`: a statement, and what it answers and changes
- `Database.report`: what is reported when a statement fails
- `Database`: the table, if it exists, and how it treats and counts updates
- `Database.gateway`: the statements of a call
- `Database.answer`: a call whose statements run without interference
- `Database.overwrite`: a change of one column by hand

## Design Notes

Databases differ in how they count the rows of an UPDATE: all rows that matched,
or only those whose values changed (`Counting`).  A table may also be frozen, so
that an UPDATE changes nothing and counts nothing.  That is why an update that
counts no row asks a second time, whether the row exists.

The columns for the flag and the deadline take anything that is written by hand.
Rows hold what can be read; what cannot, and a flag that is neither zero nor one, is
noted beside them as a `Stray` until the column is written again.  A condition of a
statement looks at the stray and not at the column in whose place it stands.
-/

namespace FeatureLock

/-- Which rows of an UPDATE a database counts. -/
inductive Counting where
  | matched
  | changed
  deriving DecidableEq

/-- What a column of a row was overwritten with that no feature has. -/
inductive Stray where
  /-- a number other than zero and one, which is read as a raised flag but equals none -/
  | oddFlag
  /-- no integer in place of the flag -/
  | noFlag
  /-- a number that is no integer of 64 bits in place of the deadline -/
  | realDeadline (x : Binary64)
  /-- a text in place of the deadline, which comes after all numbers -/
  | textDeadline
  deriving DecidableEq

/-- The columns that can be overwritten by hand. -/
inductive Column where
  | locked
  | unlockTime
  | reasonText
  | codeText
  deriving DecidableEq

/-- The column in whose place a stray stands. -/
def Stray.column : Stray → Column
  | oddFlag => .locked
  | noFlag => .locked
  | realDeadline _ => .unlockTime
  | textDeadline => .unlockTime

/-- A database with the feature table. -/
structure Database where
  /-- the rows, if the table exists -/
  table : Option (List Row)
  /-- whether every UPDATE is ignored -/
  frozen : Bool
  counting : Counting
  /-- what is in the rows of some keys and in no feature -/
  strays : List (Key × Stray)
  deriving DecidableEq

/-- A statement on the feature table. -/
inductive Statement where
  | insert (r : Row)
  | select (k : Key)
  /-- set all columns of the row of a key -/
  | update (k : Key) (columns : Columns)
  /-- count the rows of a key -/
  | count (k : Key)
  /-- release the row of a key if it is locked with a positive deadline before `now` -/
  | expire (k : Key) (now : Instant)
  | delete (k : Key)
  deriving DecidableEq

/-- Why a statement failed. -/
inductive StatementFault where
  /-- two rows would share a key -/
  | duplicate
  | failed (cause : Cause)
  deriving DecidableEq

/-- What went wrong in the store when a statement failed. -/
def StatementFault.cause : StatementFault → Cause
  | duplicate => .duplicate
  | failed cause => cause

namespace Statement

/-- The key that a statement is about. -/
def key : Statement → Key
  | insert r => r.key
  | select k => k
  | update k _ => k
  | count k => k
  | expire k _ => k
  | delete k => k

/-- The code under which a failure of a statement is reported.  A count is part of a search. -/
def code : Statement → ErrorCode
  | insert _ => .insert
  | select _ => .find
  | update .. => .update
  | count _ => .find
  | expire .. => .expire
  | delete _ => .delete

/-- What answers a statement that succeeds: the row selected, or a number of rows. -/
def Answer : Statement → Type
  | insert _ => Unit
  | select _ => Option Row
  | update .. => Nat
  | count _ => Nat
  | expire .. => Nat
  | delete _ => Nat

/-- The answer of a statement, or its failure. -/
abbrev Result (s : Statement) := Except StatementFault s.Answer

end Statement

namespace Database

/-- A database without the feature table. -/
def bare : Database := ⟨none, false, .matched, []⟩

/-! ### Strays -/

/-- The stray in place of a column in the row of a key. -/
def stray? (db : Database) (k : Key) (column : Column) : Option Stray :=
  (db.strays.find? fun s => s.1 = k && s.2.column = column).map (·.2)

/-- Whether the row of a key can be read. -/
def isReadable (db : Database) (k : Key) : Bool :=
  db.strays.all fun s => s.1 ≠ k || s.2 = .oddFlag

/-- The database once the row of a key is written anew, or is gone. -/
def forget (db : Database) (k : Key) : Database :=
  { db with strays := db.strays.filter (·.1 ≠ k) }

/-! ### Statements -/

/-- Set the columns of the rows that a condition selects, in a table of rows. -/
def setWhere (rows : List Row) (selected : Row → Bool) (columns : Columns) : List Row :=
  rows.map fun r => if selected r then { r with columns := columns } else r

/-- How many rows an UPDATE is said to have affected. -/
def affected (counting : Counting) (rows : List Row) (selected : Row → Bool)
    (columns : Columns) : Nat :=
  match counting with
  | .matched => rows.countP selected
  | .changed => rows.countP fun r => selected r && r.columns != columns

/-- An UPDATE of the rows that a condition selects. -/
def updateWhere (db : Database) (rows : List Row) (selected : Row → Bool) (columns : Columns) :
    Nat × Database :=
  if db.frozen then (0, db)
  else (affected db.counting rows selected columns,
    { db with table := some (setWhere rows selected columns) })

/-- Whether a row holds an expired lock of a key, as far as its columns tell. -/
def expiredRow (k : Key) (now : Instant) (r : Row) : Bool :=
  decide (r.key = k) && r.columns.locked && decide (noDeadline < r.columns.unlockTime) &&
    decide (r.columns.unlockTime < now)

/-- Whether a row holds an expired lock of a key, given what stands in place of its flag and of its
deadline.  A stray in place of the flag equals no flag. -/
def expired (flag deadline : Option Stray) (k : Key) (now : Instant) (r : Row) : Bool :=
  match flag, deadline with
  | none, none => expiredRow k now r
  | none, some (.realDeadline x) =>
    decide (r.key = k) && r.columns.locked && x.isAbove 0 && x.isBelow now.toInt
  | _, _ => false

/-- **What a statement answers, and the database afterwards.**  Without a table every statement
fails. -/
def execute (s : Statement) (db : Database) : s.Result × Database :=
  match db.table with
  | none => (.error (.failed .noTable), db)
  | some rows =>
    match s with
    | .insert r =>
      if rows.any (·.key = r.key) then (.error .duplicate, db)
      else (.ok (), { db with table := some (r :: rows) })
    | .select k =>
      (if db.isReadable k then .ok (rows.find? (·.key = k)) else .error (.failed .unreadable), db)
    | .update k columns =>
      let (n, db) := db.updateWhere rows (·.key = k) columns
      (.ok n, if db.frozen then db else db.forget k)
    | .count k => (.ok (rows.countP (·.key = k)), db)
    | .expire k now =>
      let lapsed := expired (db.stray? k .locked) (db.stray? k .unlockTime) k now
      let (n, db) := db.updateWhere rows lapsed .released
      (.ok n, if n = 0 then db else db.forget k)
    | .delete k =>
      (.ok (rows.countP (·.key = k)), { db.forget k with table := some (rows.filter (·.key ≠ k)) })

/-! ### Calls -/

/-- A program of statements. -/
abbrev Statements (α : Type) := Program Statement Statement.Result α

/-- **What is reported when a statement fails.**  An INSERT whose key is taken is told apart; what
goes wrong with any other statement, and in any other way, is a failure of the store. -/
def report : Statement → StatementFault → Failure
  | .insert r, .duplicate => .alreadyExists r.key
  | s, fault => .server s.code s.key fault.cause

/-- Whether the row of a key exists.  A failure is that of a search. -/
def rowExists (k : Key) : Statements (Except Failure Bool) :=
  .ask (.count k) fun
    | .ok (n : Nat) => .done (.ok (decide (0 < n)))
    | .error e => .done (.error (report (.count k) e))

/-- **The statements of a call.**  An update that counts no row asks whether the row exists, for a
database may not count a row that it overwrote with the values it had. -/
def gateway : (c : Call) → Statements (Outcome c)
  | .insert f =>
    .ask (.insert (.ofFeature f)) fun
      | .ok _ => .done (.ok ())
      | .error e => .done (.error (report (.insert (.ofFeature f)) e))
  | .find k =>
    .ask (.select k) fun
      | .ok (none : Option Row) => .done (.ok none)
      | .ok (some r : Option Row) =>
        match r.toFeature with
        | .ok f => .done (.ok (some f))
        | .error e => .done (.error (.server .decode k (.undecodable e)))
      | .error e => .done (.error (report (.select k) e))
  | .update f =>
    .ask (.update f.key (.ofFeature f)) fun
      | .ok (n : Nat) => if 0 < n then .done (.ok true) else rowExists f.key
      | .error e => .done (.error (report (.update f.key (.ofFeature f)) e))
  | .expire k now =>
    .ask (.expire k now) fun
      | .ok (n : Nat) => .done (.ok (decide (0 < n)))
      | .error e => .done (.error (report (.expire k now) e))
  | .delete k =>
    .ask (.delete k) fun
      | .ok (n : Nat) => .done (.ok (decide (0 < n)))
      | .error e => .done (.error (report (.delete k) e))

/-- **The answer to a call, and the database afterwards**, when no other statement comes between
those of the call. -/
def answer (c : Call) (db : Database) : Outcome c × Database :=
  (gateway c).run execute db

/-! ### Changes by hand -/

/-- Something else in place of what a column holds; nothing for no value. -/
structure Overwrite where
  column : Column
  value : Option Datum
  deriving DecidableEq

/-- The columns after one of them was overwritten, and the stray that this leaves.  A flag or a
deadline without a value breaks the table's rules. -/
def Overwrite.apply? (c : Columns) : Overwrite → Option (Columns × Option Stray)
  | ⟨.locked, none⟩ => none
  | ⟨.locked, some d⟩ =>
    match d.toCell with
    | .integer n =>
      some ({ c with locked := n ≠ 0 }, if n = 0 ∨ n = 1 then none else some .oddFlag)
    | _ => some (c, some .noFlag)
  | ⟨.unlockTime, none⟩ => none
  | ⟨.unlockTime, some d⟩ =>
    match d.toCell with
    | .integer n => some ({ c with unlockTime := Int64.ofInt n }, none)
    | .real x => some (c, some (.realDeadline x))
    | .text _ => some (c, some .textDeadline)
  | ⟨.reasonText, d⟩ => some ({ c with reasonText := d.map Datum.toText }, none)
  | ⟨.codeText, d⟩ => some ({ c with codeText := d.map Datum.toText }, none)

/-- The strays once a column of the row of a key was overwritten. -/
def straysAfter (db : Database) (k : Key) (column : Column) (stray : Option Stray) :
    List (Key × Stray) :=
  db.strays.filter (fun s => !(s.1 = k && s.2.column = column)) ++ (stray.map (k, ·)).toList

/-- Overwrite one column of the row of a key.  Answers the number of rows changed, or nothing if
there is no table or its rules forbid the change.  A frozen table ignores the change before it
looks at the rules. -/
def overwrite (db : Database) (k : Key) (change : Overwrite) : Option Nat × Database :=
  match db.table with
  | none => (none, db)
  | some rows =>
    match rows.find? (·.key = k) with
    | none => (some 0, db)
    | some r =>
      if db.frozen then (some 0, db)
      else match change.apply? r.columns with
        | none => (none, db)
        | some (c, stray) =>
          (some 1, { db with
            table := some (setWhere rows (·.key = k) c)
            strays := db.straysAfter k change.column stray })

/-- Let every UPDATE be ignored from now on.  Fails without a table and if it is so already. -/
def freeze (db : Database) : Bool × Database :=
  if db.table.isSome && !db.frozen then (true, { db with frozen := true }) else (false, db)

/-- Let an UPDATE take effect again. -/
def unfreeze (db : Database) : Database :=
  { db with frozen := false }

/-- Remove the table, and with it whether it was frozen. -/
def dropTable (db : Database) : Database :=
  { db with table := none, frozen := false, strays := [] }

/-- Create the table if it is missing. -/
def ensureSchema (db : Database) : Database :=
  { db with table := some (db.table.getD []) }

end Database

end FeatureLock
