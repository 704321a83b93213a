import FeatureLock.Proofs.Store.Table

/-!
# What a SELECT finds

A table need not be one that a memory can be laid out as: its rows may have been
written by hand, and their texts may stand for no reasons.  What can be said of one
key all the same is what a SELECT finds, and how the statements change that.

Main definition: `Database.Selects`, what a SELECT finds under a key.

Main statements: `Database.selects_update`, after an UPDATE that is not ignored there
is no row, or exactly the one that was written; `Database.row_appears`, under a key
without a row only an INSERT makes one appear.
-/

namespace FeatureLock.Database

variable {db : Database} {k : Key} {rows : List Row}

/-- **A SELECT under a key finds a row**, or finds that there is none. -/
def Selects (db : Database) (k : Key) (found : Option Row) : Prop :=
  (execute (.select k) db).1 = .ok found

theorem selects_of_readable {found : Option Row} (table : db.table = some rows)
    (readable : db.isReadable k = true) (row : rows.find? (·.key = k) = found) :
    db.Selects k found := by
  simp only [Selects, execute, table, readable, if_true, row]

theorem Selects.readable {found : Option Row} (h : db.Selects k found) :
    ∃ rows, db.table = some rows ∧ db.isReadable k = true ∧ rows.find? (·.key = k) = found := by
  simp only [Selects, execute] at h
  split at h
  · cases h
  · next rows table =>
    split at h
    · next readable => exact ⟨rows, table, readable, Except.ok.inj h⟩
    · cases h

/-! ### Strays -/

theorem isReadable_forget_self (db : Database) (k : Key) : (db.forget k).isReadable k = true := by
  simp only [isReadable, forget, List.all_eq_true, List.mem_filter]
  rintro ⟨key, stray⟩ ⟨-, other⟩
  rw [Bool.or_eq_true]
  exact .inl other

theorem isReadable_forget (k' : Key) (h : db.isReadable k = true) :
    (db.forget k').isReadable k = true := by
  simp only [isReadable, List.all_eq_true] at h ⊢
  exact fun s mem => h s (List.mem_of_mem_filter mem)

/-! ### Statements -/

/-- No statement freezes a table. -/
theorem frozen_execute (s : Statement) (db : Database) : (execute s db).2.frozen = db.frozen := by
  have updated : ∀ rows selected columns,
      (db.updateWhere rows selected columns).2.frozen = db.frozen := by
    intro rows selected columns
    simp only [updateWhere]
    split <;> rfl
  simp only [execute]
  split
  · rfl
  · cases s with
    | insert r =>
      simp only
      split <;> rfl
    | select k => rfl
    | update k columns =>
      simp only
      split
      · exact updated _ _ _
      · exact updated _ _ _
    | count k => rfl
    | expire k now =>
      simp only
      split
      · exact updated _ _ _
      · exact updated _ _ _
    | delete k => rfl

/-- **After an UPDATE that is not ignored** there is exactly the row that was written, unless there
was none before; then there is none, and none was counted. -/
theorem selects_update {columns : Columns} {n : Nat} (thawed : db.frozen = false)
    (ok : (execute (.update k columns) db).1 = .ok n) :
    (execute (.update k columns) db).2.Selects k (some ⟨k, columns⟩) ∨
      (n = 0 ∧ (execute (.update k columns) db).2.Selects k none) := by
  simp only [execute, updateWhere, thawed] at ok ⊢
  cases table : db.table with
  | none =>
    rw [table] at ok
    cases ok
  | some rows =>
    rw [table] at ok
    cases Except.ok.inj ok
    have readable := isReadable_forget_self
      { db with table := some (setWhere rows (·.key = k) columns) } k
    have set := find?_setWhere rows (·.key = k) columns k
    cases found : rows.find? (·.key = k) with
    | some r =>
      refine .inl (selects_of_readable rfl readable (set.trans ?_))
      have key : r.key = k := by simpa using List.find?_some found
      rw [found, Option.map_some, if_pos (decide_eq_true key), key]
    | none =>
      refine .inr ⟨?_, selects_of_readable rfl readable (set.trans ?_)⟩
      · refine Nat.eq_zero_of_not_pos fun counted => ?_
        obtain ⟨r, mem, key⟩ := exists_of_affected counted
        exact absurd key (List.find?_eq_none.mp found r mem)
      · rw [found, Option.map_none]

/-- Where there is no row none is counted. -/
theorem count_of_selects_none {n : Nat} (empty : db.Selects k none)
    (ok : (execute (.count k) db).1 = .ok n) : n = 0 := by
  obtain ⟨rows, table, -, absent⟩ := empty.readable
  simp only [execute, table] at ok
  cases Except.ok.inj ok
  exact List.countP_eq_zero.mpr (List.find?_eq_none.mp absent)

theorem Selects.updateWhere_none (empty : db.Selects k none) (table : db.table = some rows)
    (selected : Row → Bool) (columns : Columns) :
    (db.updateWhere rows selected columns).2.Selects k none := by
  obtain ⟨rows', table', readable, absent⟩ := empty.readable
  cases table.symm.trans table'
  simp only [updateWhere]
  split
  · exact empty
  · refine selects_of_readable rfl readable ?_
    rw [find?_setWhere, absent, Option.map_none]

theorem Selects.forget {found : Option Row} (h : db.Selects k found) (k' : Key) :
    (db.forget k').Selects k found := by
  obtain ⟨rows, table, readable, row⟩ := h.readable
  exact selects_of_readable table (isReadable_forget k' readable) row

/-- **Under a key without a row only an INSERT makes one appear.** -/
theorem row_appears (s : Statement) (empty : db.Selects k none) :
    (execute s db).2.Selects k none ∨
      ∃ r, s = .insert r ∧ r.key = k ∧ (execute s db).2.Selects k (some r) := by
  obtain ⟨rows, table, readable, absent⟩ := empty.readable
  simp only [execute, table]
  cases s with
  | insert r =>
    simp only
    split
    · exact .inl empty
    · by_cases key : r.key = k
      · refine .inr ⟨r, rfl, key, selects_of_readable rfl readable ?_⟩
        exact List.find?_cons_of_pos (p := fun x : Row => decide (x.key = k)) (decide_eq_true key)
      · refine .inl (selects_of_readable rfl readable ?_)
        refine (List.find?_cons_of_neg (p := fun x : Row => decide (x.key = k)) ?_).trans absent
        exact fun same => key (of_decide_eq_true same)
  | select k' => exact .inl empty
  | update k' columns =>
    simp only
    split
    · exact .inl (empty.updateWhere_none table _ _)
    · exact .inl ((empty.updateWhere_none table _ _).forget k')
  | count k' => exact .inl empty
  | expire k' now =>
    simp only
    split
    · exact .inl (empty.updateWhere_none table _ _)
    · exact .inl ((empty.updateWhere_none table _ _).forget k')
  | delete k' =>
    refine .inl (selects_of_readable rfl (isReadable_forget k' readable) ?_)
    rw [List.find?_eq_none] at absent ⊢
    exact fun r mem => absent r (List.mem_of_mem_filter mem)

end FeatureLock.Database
