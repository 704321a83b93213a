import FeatureLock.StorageMode
import FeatureLock.Store.Database
import FeatureLock.Store.Memory

/-!
# Stores

A store keeps its features in memory or in a database.

## Main Definitions

- `Store`, `Store.answer`: a store of either kind, and its five calls
- `StoreStep`, `Store.perform`: what can be done to a store directly
-/

namespace FeatureLock

/-- A store of features. -/
inductive Store where
  | memory (m : Memory)
  | database (db : Database)

namespace Store

/-- Where the features are kept. -/
def mode : Store → StorageMode
  | memory _ => .memory
  | database _ => .externalDb

/-- **The answer to a call, and the store afterwards.** -/
def answer (c : Call) : Store → Outcome c × Store
  | memory m =>
    let (a, m) := m.answer c
    (a, memory m)
  | database db =>
    let (a, db) := db.answer c
    (a, database db)

end Store

/-- What can be done to a store directly. -/
inductive StoreStep where
  | call (c : Call)
  | mode
  | health
  /-- memory only: how many features there are -/
  | size
  /-- database only: overwrite a column of a row -/
  | overwrite (k : Key) (change : Database.Overwrite)
  /-- database only: ignore every UPDATE -/
  | freeze
  /-- database only: no longer ignore every UPDATE -/
  | unfreeze
  /-- database only: remove the table -/
  | dropTable
  /-- database only: create the table if it is missing -/
  | ensureSchema

/-- What a direct step answers. -/
inductive StoreReply where
  | outcome (c : Call) (result : Outcome c)
  | mode (m : StorageMode)
  | ok
  | size (n : Nat)
  | rows (n : Nat)
  /-- the database rejected a change by hand -/
  | rejected
  /-- the store has no such step -/
  | unsupported

/-- Do a direct step. -/
def Store.perform : StoreStep → Store → StoreReply × Store
  | .call c, s =>
    let (a, s) := s.answer c
    (.outcome c a, s)
  | .mode, s => (.mode s.mode, s)
  | .health, s => (.ok, s)
  | .size, .memory m => (.size m.size, .memory m)
  | .overwrite k change, .database db =>
    let (n, db) := db.overwrite k change
    (n.elim .rejected .rows, .database db)
  | .freeze, .database db =>
    let (done, db) := db.freeze
    (if done then .ok else .rejected, .database db)
  | .unfreeze, .database db => (.ok, .database db.unfreeze)
  | .dropTable, .database db => (.ok, .database db.dropTable)
  | .ensureSchema, .database db => (.ok, .database db.ensureSchema)
  | _, s => (.unsupported, s)

end FeatureLock
