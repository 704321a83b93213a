import FeatureLock.Proofs.Store.ReasonText
import FeatureLock.Store.Database
import Mathlib.Data.List.Nodup
import Mathlib.Logic.Function.Basic

/-!
# Calls on a table

A table has at most one row for each key.  What its rows hold is left open: anybody may
have written the texts of the reasons, and they need not stand for any.  A call is a step
on the row of its key all the same, and looks at that row's texts only if it is a search.

## Main Definitions

- `Table`, `Table.columns?`: rows with distinct keys, seen as the columns of each key
- `Table.set`: the table with other columns under one key, or with none
- `Table.stored`: the table in a database
- `Call.onColumns`: what a call answers, given the columns of its key, and the columns
  afterwards
- `Table.Writes`: what a table becomes where a feature is to be written

Main statements: `Table.answer_stored`, a call on a database is the step on the columns of
its key, whichever rows of an UPDATE the database counts; and `updates_ignore_counting`,
what an update answers and leaves.

## Design Notes

Where a database counts only rows whose values have changed, a count of zero says little
about an UPDATE of all columns: the row may be missing, or it may have had the values
before.  The statement that follows tells these apart.  The conditional UPDATE is not
followed by any: it takes a flag away, so each row that it selects is changed.
-/

namespace FeatureLock

/-- Whether columns are those of an expired lock. -/
def Columns.isExpiredAt (c : Columns) (now : Instant) : Bool :=
  c.locked && decide (noDeadline < c.unlockTime) && decide (c.unlockTime < now)

/-- The columns of a feature are expired when the feature is. -/
theorem Columns.isExpiredAt_ofFeature (f : Feature) (now : Instant) :
    (ofFeature f).isExpiredAt now = f.isExpiredAt now := rfl

/-- Rows with distinct keys. -/
structure Table where
  rows : List Row
  distinct : (rows.map Row.key).Nodup

/-! ### Rows -/

namespace Row

/-- **The row of a feature is read as that feature.** -/
theorem toFeature_ofFeature (f : Feature) : (ofFeature f).toFeature = .ok f := by
  simp only [toFeature, ofFeature, Columns.ofFeature, ReasonText.decode_encode]
  rfl

@[simp] theorem key_ofFeature (f : Feature) : (ofFeature f).key = f.key := rfl

/-- A released row is the row of the fresh feature. -/
theorem released_eq (k : Key) : Columns.released = .ofFeature (.fresh k) := by
  simp only [Columns.released, Columns.ofFeature, Feature.fresh, ReasonText.encode_nil]

end Row

namespace Database

variable {rows : List Row} {selected : Row → Bool} {columns : Columns} {k : Key}

/-- Setting columns changes no key. -/
theorem find?_setWhere (rows : List Row) (selected : Row → Bool) (columns : Columns) (k : Key) :
    (setWhere rows selected columns).find? (·.key = k) =
      (rows.find? (·.key = k)).map fun r =>
        if selected r then { r with columns := columns } else r := by
  have keys : (fun r : Row => decide (r.key = k)) ∘
      (fun r => if selected r then { r with columns := columns } else r) =
        fun r : Row => decide (r.key = k) := by
    funext r
    by_cases set : selected r = true <;> simp [set]
  rw [setWhere, List.find?_map, keys]

theorem map_key_setWhere (rows : List Row) (selected : Row → Bool) (columns : Columns) :
    (setWhere rows selected columns).map Row.key = rows.map Row.key := by
  rw [setWhere, List.map_map]
  refine List.map_congr_left fun r _ => ?_
  by_cases set : selected r = true <;> simp [set]

/-- Where no row is selected nothing is set. -/
theorem setWhere_of_not_selected (unselected : ∀ r ∈ rows, selected r = false) :
    setWhere rows selected columns = rows := by
  conv_rhs => rw [← List.map_id rows]
  refine List.map_congr_left fun r mem => ?_
  simp [unselected r mem]

/-- Rows that are not set are the same ones, in the same order. -/
theorem filter_setWhere {p : Row → Bool} (others : ∀ columns, p ⟨k, columns⟩ = false)
    (rows : List Row) (columns : Columns) :
    (setWhere rows (·.key = k) columns).filter p = rows.filter p := by
  induction rows with
  | nil => rfl
  | cons r rows ih =>
    obtain ⟨k', before⟩ := r
    simp only [setWhere, List.map_cons, decide_eq_true_eq] at ih ⊢
    by_cases own : k' = k
    · subst own
      rw [if_pos rfl, List.filter_cons_of_neg (by simp [others]),
        List.filter_cons_of_neg (by simp [others]), ih]
    · rw [if_neg own, List.filter_cons, List.filter_cons, ih]

/-- Two conditions that agree on the rows set the same. -/
theorem setWhere_congr {selected' : Row → Bool} (same : ∀ r ∈ rows, selected r = selected' r) :
    setWhere rows selected columns = setWhere rows selected' columns :=
  List.map_congr_left fun r mem => by rw [same r mem]

/-- What is set last is what is set. -/
theorem setWhere_setWhere (rows : List Row) (k : Key) (before columns : Columns) :
    setWhere (setWhere rows (·.key = k) before) (·.key = k) columns =
      setWhere rows (·.key = k) columns := by
  rw [setWhere, setWhere, List.map_map]
  refine List.map_congr_left fun r _ => ?_
  by_cases own : r.key = k <;> simp [own]

/-- An UPDATE counts rows only where there are some that it selects. -/
theorem exists_of_affected {counting : Counting}
    (counted : 0 < affected counting rows selected columns) :
    ∃ r ∈ rows, selected r = true := by
  cases counting with
  | matched => exact List.countP_pos_iff.mp counted
  | changed =>
    obtain ⟨r, mem, both⟩ := List.countP_pos_iff.mp counted
    exact ⟨r, mem, (Bool.and_eq_true_iff.mp both).1⟩

theorem expiredRow_eq (k : Key) (now : Instant) (r : Row) :
    expiredRow k now r = (decide (r.key = k) && r.columns.isExpiredAt now) := by
  simp only [expiredRow, Columns.isExpiredAt, Bool.and_assoc]

/-- The rows that the UPDATE counted decide whether a second statement is asked. -/
theorem answer_update_of_execute {f : Feature} {db db' : Database} {n : Nat}
    (h : execute (.update f.key (.ofFeature f)) db = (.ok n, db')) :
    db.answer (.update f) =
      if 0 < n then (.ok true, db') else (rowExists f.key).run execute db' := by
  simp only [answer, gateway, Program.run_ask, h]
  cases n with
  | zero => rfl
  | succ n => rfl

/-- **An expired row is counted either way**, since it is locked and a released one is not. -/
theorem affected_expiredRow (counting : Counting) (rows : List Row) (k : Key) (now : Instant) :
    affected counting rows (expiredRow k now) .released = rows.countP (expiredRow k now) := by
  cases counting with
  | matched => rfl
  | changed =>
    refine List.countP_congr fun r _ =>
      ⟨fun both => (Bool.and_eq_true_iff.mp both).1, fun lapsed => ?_⟩
    have differs : r.columns ≠ .released := by
      intro same
      rw [expiredRow_eq, same, Bool.and_eq_true] at lapsed
      cases lapsed.2
    simp [lapsed, differs]

end Database

namespace Table

open Database

variable {t : Table} {k : Key} {columns : Columns}

/-- **The columns of the row of a key.** -/
def columns? (t : Table) (k : Key) : Option Columns :=
  (t.rows.find? (·.key = k)).map Row.columns

theorem columns?_eq_some_iff : t.columns? k = some columns ↔ ⟨k, columns⟩ ∈ t.rows := by
  rw [columns?, Option.map_eq_some_iff]
  constructor
  · rintro ⟨⟨k', _⟩, found, rfl⟩
    obtain rfl : k' = k := by simpa using List.find?_some found
    exact List.mem_of_find?_eq_some found
  · intro mem
    cases found : t.rows.find? (·.key = k) with
    | none => exact absurd (decide_eq_true rfl) (List.find?_eq_none.mp found _ mem)
    | some r =>
      have key : r.key = k := by simpa using List.find?_some found
      have same := List.inj_on_of_nodup_map t.distinct (List.mem_of_find?_eq_some found) mem key
      exact ⟨r, rfl, congrArg Row.columns same⟩

theorem columns?_eq_none_iff : t.columns? k = none ↔ ∀ r ∈ t.rows, r.key ≠ k := by
  rw [columns?, Option.map_eq_none_iff]
  simp

/-- The row of a key is what a search selects. -/
theorem find?_rows (t : Table) (k : Key) :
    t.rows.find? (·.key = k) = (t.columns? k).map (Row.mk k) := by
  rw [columns?, Option.map_map]
  cases found : t.rows.find? (·.key = k) with
  | none => rfl
  | some r =>
    obtain rfl : r.key = k := by simpa using List.find?_some found
    rfl

theorem any_rows (t : Table) (k : Key) : t.rows.any (·.key = k) = (t.columns? k).isSome := by
  rw [columns?, Option.isSome_map, Bool.eq_iff_iff]
  simp

theorem countP_rows_pos (t : Table) (k : Key) :
    decide (0 < t.rows.countP (·.key = k)) = (t.columns? k).isSome := by
  rw [← any_rows, Bool.eq_iff_iff, decide_eq_true_iff, List.countP_pos_iff, List.any_eq_true]

/-- The conditional UPDATE counts a row if and only if there is an expired one of the key. -/
theorem countP_expiredRow_pos (t : Table) (k : Key) (now : Instant) :
    decide (0 < t.rows.countP (expiredRow k now)) = (t.columns? k).any (·.isExpiredAt now) := by
  rw [Bool.eq_iff_iff, decide_eq_true_iff, List.countP_pos_iff, Option.any_eq_true]
  constructor
  · rintro ⟨⟨k', columns⟩, mem, lapsed⟩
    rw [expiredRow_eq, Bool.and_eq_true, decide_eq_true_iff] at lapsed
    obtain ⟨rfl, lapsed⟩ := lapsed
    exact ⟨columns, columns?_eq_some_iff.mpr mem, lapsed⟩
  · rintro ⟨columns, found, lapsed⟩
    exact ⟨_, columns?_eq_some_iff.mp found, by simp [expiredRow_eq, lapsed]⟩

/-! ### One row -/

/-- **The table with other columns under a key**, or without a row of the key. -/
def set (t : Table) (k : Key) : Option Columns → Table
  | none => ⟨t.rows.filter (·.key ≠ k), t.distinct.sublist (List.filter_sublist.map _)⟩
  | some columns =>
    if taken : (t.columns? k).isSome then
      ⟨setWhere t.rows (·.key = k) columns, map_key_setWhere t.rows _ _ ▸ t.distinct⟩
    else
      ⟨⟨k, columns⟩ :: t.rows, List.nodup_cons.mpr ⟨fun mem => taken (by
        obtain ⟨r, mem, same⟩ := List.mem_map.mp mem
        rw [← any_rows]
        exact List.any_eq_true.mpr ⟨r, mem, decide_eq_true same⟩), t.distinct⟩⟩

theorem rows_set_none (t : Table) (k : Key) : (t.set k none).rows = t.rows.filter (·.key ≠ k) := rfl

theorem rows_set_of_taken (taken : (t.columns? k).isSome = true) (columns : Columns) :
    (t.set k (some columns)).rows = setWhere t.rows (·.key = k) columns := by
  rw [set, dif_pos taken]

theorem rows_set_of_free (free : t.columns? k = none) (columns : Columns) :
    (t.set k (some columns)).rows = ⟨k, columns⟩ :: t.rows := by
  rw [set, dif_neg (by simp [free])]

/-- **Only the columns of the key are other ones.** -/
theorem columns?_set (t : Table) (k : Key) (columns : Option Columns) :
    (t.set k columns).columns? = Function.update t.columns? k columns := by
  funext k'
  cases columns with
  | none =>
    by_cases same : k' = k
    · subst same
      rw [Function.update_self, columns?_eq_none_iff, rows_set_none]
      intro r mem
      simpa using (List.mem_filter.mp mem).2
    · rw [Function.update_of_ne same, columns?, columns?, rows_set_none, List.find?_filter]
      congr 2
      funext r
      by_cases key : r.key = k'
      · simp [key, same]
      · simp [key]
  | some columns =>
    cases found : t.columns? k with
    | none =>
      rw [columns?, rows_set_of_free found, List.find?_cons]
      by_cases same : k' = k
      · subst same
        simp
      · rw [Function.update_of_ne same]
        have other : ¬ k = k' := fun h => same h.symm
        simp only [other, decide_false]
        rfl
    | some before =>
      have taken : (t.columns? k).isSome = true := by simp [found]
      rw [columns?, rows_set_of_taken taken, find?_setWhere, t.find?_rows, Option.map_map,
        Option.map_map]
      by_cases same : k' = k
      · subst same
        rw [Function.update_self, found]
        simp
      · rw [Function.update_of_ne same]
        cases t.columns? k' <;> simp [same]

/-- Rows of other keys are the same ones, in the same order. -/
theorem filter_set {p : Row → Bool} (others : ∀ columns, p ⟨k, columns⟩ = false)
    (columns : Option Columns) : (t.set k columns).rows.filter p = t.rows.filter p := by
  cases columns with
  | none =>
    rw [rows_set_none, List.filter_filter]
    refine List.filter_congr fun r _ => ?_
    by_cases own : r.key = k
    · subst own
      simp [others r.columns]
    · simp [own]
  | some columns =>
    cases found : t.columns? k with
    | none =>
      rw [rows_set_of_free found, List.filter_cons_of_neg (by simp [others])]
    | some before =>
      rw [rows_set_of_taken (by simp [found]), filter_setWhere others]

theorem ext_rows {u : Table} (same : t.rows = u.rows) : t = u := by
  cases t
  cases u
  cases same
  rfl

/-- Setting the columns that a key has changes nothing. -/
theorem set_eq_self {columns : Option Columns} (found : t.columns? k = columns) :
    t.set k columns = t := by
  apply ext_rows
  cases columns with
  | none =>
    rw [rows_set_none, List.filter_eq_self]
    intro r mem
    simpa using columns?_eq_none_iff.mp found r mem
  | some columns =>
    have mem := columns?_eq_some_iff.mp found
    rw [rows_set_of_taken (by simp [found]), setWhere]
    conv_rhs => rw [← List.map_id t.rows]
    refine List.map_congr_left fun r mem' => ?_
    by_cases key : r.key = k
    · have same := List.inj_on_of_nodup_map t.distinct mem' mem key
      simp [same]
    · simp [key]

/-! ### Statements -/

/-- **The table in a database** that ignores no UPDATE, and counts its rows in one of two ways. -/
def stored (t : Table) (counting : Counting) : Database :=
  ⟨some t.rows, false, counting, []⟩

variable (t k) (counting : Counting)

theorem execute_insert (r : Row) :
    execute (.insert r) (t.stored counting) =
      if (t.columns? r.key).isSome then (.error .duplicate, t.stored counting)
      else (.ok (), ⟨some (r :: t.rows), false, counting, []⟩) := by
  rw [← any_rows]
  rfl

theorem execute_select :
    execute (.select k) (t.stored counting) =
      (.ok ((t.columns? k).map (Row.mk k)), t.stored counting) := by
  rw [← find?_rows]
  rfl

theorem execute_update (columns : Columns) :
    execute (.update k columns) (t.stored counting) =
      (.ok (affected counting t.rows (·.key = k) columns),
        ⟨some (setWhere t.rows (·.key = k) columns), false, counting, []⟩) := rfl

theorem execute_count :
    execute (.count k) (t.stored counting) =
      (.ok (t.rows.countP (·.key = k)), t.stored counting) := rfl

theorem execute_expire (now : Instant) :
    execute (.expire k now) (t.stored counting) =
      (.ok (t.rows.countP (expiredRow k now)),
        ⟨some (setWhere t.rows (expiredRow k now) .released), false, counting, []⟩) := by
  have forgotten : ∀ (n : Nat) (rows : List Row),
      (if n = 0 then (⟨some rows, false, counting, []⟩ : Database)
        else forget ⟨some rows, false, counting, []⟩ k) = ⟨some rows, false, counting, []⟩ :=
    fun n rows => by split <;> rfl
  rw [← affected_expiredRow counting t.rows k now]
  exact congrArg (Prod.mk _) (forgotten _ _)

theorem execute_delete :
    execute (.delete k) (t.stored counting) =
      (.ok (t.rows.countP (·.key = k)), (t.set k none).stored counting) := rfl

/-- An UPDATE of all columns sets those of the key, if there is a row to set. -/
theorem setWhere_key (columns : Columns) :
    setWhere t.rows (·.key = k) columns =
      (t.set k ((t.columns? k).map fun _ => columns)).rows := by
  cases found : t.columns? k with
  | none =>
    have absent := columns?_eq_none_iff.mp found
    rw [Option.map_none, set_eq_self found]
    exact setWhere_of_not_selected fun r mem => decide_eq_false (absent r mem)
  | some before => rw [Option.map_some, rows_set_of_taken (by simp [found])]

/-- The conditional UPDATE sets the columns of the key if they are those of an expired lock. -/
theorem setWhere_expiredRow (now : Instant) :
    setWhere t.rows (expiredRow k now) .released =
      (t.set k ((t.columns? k).map fun c => if c.isExpiredAt now then .released else c)).rows := by
  cases found : t.columns? k with
  | none =>
    have absent := columns?_eq_none_iff.mp found
    rw [Option.map_none, set_eq_self found]
    refine setWhere_of_not_selected fun r mem => ?_
    rw [expiredRow_eq, decide_eq_false (absent r mem), Bool.false_and]
  | some columns =>
    -- a row of the key is this one
    have lapsed : ∀ r ∈ t.rows, expiredRow k now r =
        (decide (r.key = k) && columns.isExpiredAt now) := by
      rintro ⟨k', columns'⟩ mem
      rw [expiredRow_eq]
      by_cases key : k' = k
      · subst key
        have same := columns?_eq_some_iff.mpr mem
        rw [found] at same
        rw [Option.some.inj same]
      · simp [key]
    rw [Option.map_some]
    cases expired : columns.isExpiredAt now with
    | true =>
      rw [if_pos rfl, rows_set_of_taken (by simp [found])]
      exact setWhere_congr fun r mem => by rw [lapsed r mem, expired, Bool.and_true]
    | false =>
      rw [if_neg Bool.false_ne_true, set_eq_self found]
      exact setWhere_of_not_selected fun r mem => by rw [lapsed r mem, expired, Bool.and_false]

end Table

/-! ### Calls -/

namespace Call

/-- What a search answers of a row that it selected. -/
def readRow (k : Key) (r : Row) : Outcome (.find k) :=
  match r.toFeature with
  | .ok f => .ok (some f)
  | .error e => .error (.server .decode k (.undecodable e))

theorem readRow_ofFeature (f : Feature) : readRow f.key (.ofFeature f) = .ok (some f) := by
  simp only [readRow, Row.toFeature_ofFeature]

/-- **What a call answers, given the columns of its key, and the columns of its key afterwards.** -/
def onColumns : (c : Call) → Option Columns → Outcome c × Option Columns
  | insert f, none => (.ok (), some (.ofFeature f))
  | insert f, some columns => (.error (.alreadyExists f.key), some columns)
  | find _, none => (.ok none, none)
  | find k, some columns => (readRow k ⟨k, columns⟩, some columns)
  | update _, none => (.ok false, none)
  | update f, some _ => (.ok true, some (.ofFeature f))
  | expire _ _, none => (.ok false, none)
  | expire _ now, some columns =>
    if columns.isExpiredAt now then (.ok true, some .released) else (.ok false, some columns)
  | delete _, columns => (.ok columns.isSome, none)

end Call

namespace Table

open Database

variable (t : Table) (counting : Counting)

/-- **What a table answers to a call, and the table afterwards.** -/
def answer (c : Call) (t : Table) : Outcome c × Table :=
  ((c.onColumns (t.columns? c.key)).1, t.set c.key (c.onColumns (t.columns? c.key)).2)

/-- After a call only the columns of its key may be other ones. -/
theorem columns?_answer (c : Call) :
    (t.answer c).2.columns? =
      Function.update t.columns? c.key (c.onColumns (t.columns? c.key)).2 :=
  t.columns?_set _ _

theorem columns?_answer_self (c : Call) :
    (t.answer c).2.columns? c.key = (c.onColumns (t.columns? c.key)).2 := by
  rw [columns?_answer, Function.update_self]

/-- An insertion under a key that is taken is refused. -/
theorem answer_insert_of_taken {f : Feature} (taken : (t.columns? f.key).isSome = true) :
    t.answer (.insert f) = (.error (.alreadyExists f.key), t) := by
  obtain ⟨columns, found⟩ := Option.isSome_iff_exists.mp taken
  simp only [answer, Call.key, found, Call.onColumns, set_eq_self found]

theorem answer_update_fst (f : Feature) :
    (t.answer (.update f)).1 = .ok (t.columns? f.key).isSome := by
  simp only [answer, Call.key]
  cases t.columns? f.key <;> rfl

theorem answer_expire_fst (k : Key) (now : Instant) :
    (t.answer (.expire k now)).1 = .ok ((t.columns? k).any (·.isExpiredAt now)) := by
  simp only [answer, Call.key]
  cases t.columns? k with
  | none => rfl
  | some columns => cases lapsed : columns.isExpiredAt now <;> simp [Call.onColumns, lapsed]

theorem stored_set (k : Key) (columns : Option Columns) {rows : List Row}
    (same : rows = (t.set k columns).rows) :
    (⟨some rows, false, counting, []⟩ : Database) = (t.set k columns).stored counting := by
  rw [stored, same]

theorem answer_insert (f : Feature) :
    (t.stored counting).answer (.insert f) =
      ((t.answer (.insert f)).1, (t.answer (.insert f)).2.stored counting) := by
  have asked : execute (.insert (.ofFeature f)) (t.stored counting) = _ :=
    t.execute_insert counting (.ofFeature f)
  cases found : t.columns? f.key with
  | none =>
    rw [Row.ofFeature, found, Option.isSome_none, if_neg Bool.false_ne_true] at asked
    simp only [Database.answer, gateway, Program.run_ask, Row.ofFeature, asked, Program.run_done,
      answer, Call.key, found, Call.onColumns]
    exact congrArg (Prod.mk _)
      (t.stored_set counting _ _ (rows_set_of_free found (.ofFeature f)).symm)
  | some columns =>
    rw [Row.ofFeature, found, Option.isSome_some, if_pos rfl] at asked
    simp only [Database.answer, gateway, Program.run_ask, Row.ofFeature, asked, Program.run_done,
      answer, Call.key, found, Call.onColumns, set_eq_self found]
    rfl

theorem answer_find (k : Key) :
    (t.stored counting).answer (.find k) =
      ((t.answer (.find k)).1, (t.answer (.find k)).2.stored counting) := by
  simp only [Database.answer, gateway, Program.run_ask, execute_select, answer, Call.key]
  cases found : t.columns? k with
  | none =>
    simp only [Option.map_none, Program.run_done, Call.onColumns, set_eq_self found]
  | some columns =>
    simp only [Option.map_some, Call.onColumns, Call.readRow, set_eq_self found]
    cases (Row.mk k columns).toFeature <;> rfl

/-- An UPDATE that counted no row is followed by a second statement, which counts the rows of the
key. -/
theorem answer_update (f : Feature) :
    (t.stored counting).answer (.update f) =
      ((t.answer (.update f)).1, (t.answer (.update f)).2.stored counting) := by
  have after : (⟨some (setWhere t.rows (·.key = f.key) (.ofFeature f)), false, counting, []⟩ :
      Database) = (t.answer (.update f)).2.stored counting := by
    refine t.stored_set counting _ _ ((t.setWhere_key f.key _).trans ?_)
    simp only [Call.key]
    cases t.columns? f.key <;> rfl
  have stays : ((t.answer (.update f)).2.columns? f.key).isSome = (t.columns? f.key).isSome := by
    have self := t.columns?_answer_self (.update f)
    simp only [Call.key] at self
    rw [self]
    cases t.columns? f.key <;> rfl
  rw [t.answer_update_fst,
    answer_update_of_execute (t.execute_update f.key counting (.ofFeature f)), after]
  split
  · next counted =>
    have taken : (t.columns? f.key).isSome = true := by
      rw [← any_rows]
      exact List.any_eq_true.mpr (exists_of_affected counted)
    rw [taken]
    rfl
  · simp only [rowExists, Program.run_ask, execute_count, Program.run_done, countP_rows_pos,
      stays]
    rfl

theorem answer_expire (k : Key) (now : Instant) :
    (t.stored counting).answer (.expire k now) =
      ((t.answer (.expire k now)).1, (t.answer (.expire k now)).2.stored counting) := by
  have after : (⟨some (setWhere t.rows (expiredRow k now) .released), false, counting, []⟩ :
      Database) = (t.answer (.expire k now)).2.stored counting := by
    refine t.stored_set counting _ _ ((t.setWhere_expiredRow k now).trans ?_)
    simp only [Call.key]
    cases t.columns? k with
    | none => rfl
    | some columns => cases lapsed : columns.isExpiredAt now <;> simp [Call.onColumns, lapsed]
  rw [t.answer_expire_fst, Database.answer, gateway, Program.run_ask, execute_expire, after]
  simp only [Program.run_done, countP_expiredRow_pos]

theorem answer_delete (k : Key) :
    (t.stored counting).answer (.delete k) =
      ((t.answer (.delete k)).1, (t.answer (.delete k)).2.stored counting) := by
  simp only [Database.answer, gateway, Program.run_ask, execute_delete, Program.run_done,
    countP_rows_pos]
  rfl

/-- **A call on a database is the step on the columns of its key**, for either way of counting. -/
theorem answer_stored (c : Call) :
    (t.stored counting).answer c = ((t.answer c).1, (t.answer c).2.stored counting) := by
  cases c with
  | insert f => exact t.answer_insert counting f
  | find k => exact t.answer_find counting k
  | update f => exact t.answer_update counting f
  | expire k now => exact t.answer_expire counting k now
  | delete k => exact t.answer_delete counting k

/-! ### Writing -/

/-- **What a table becomes where a feature is to be written.**  If it was written a search finds it,
and otherwise the table is as before; the rows of other keys are the same ones in any case. -/
structure Writes (t : Table) (f : Feature) (written : Bool) (after : Table) : Prop where
  found : written = true → ∀ counting : Counting,
    (after.stored counting).answer (.find f.key) = (.ok (some f), after.stored counting)
  unchanged : written = false → after = t
  others : after.rows.filter (·.key ≠ f.key) = t.rows.filter (·.key ≠ f.key)

/-- A feature is found where its columns are. -/
theorem answer_find_of_columns? {f : Feature} (columns : t.columns? f.key = some (.ofFeature f)) :
    t.answer (.find f.key) = (.ok (some f), t) := by
  have read : Call.readRow f.key ⟨f.key, .ofFeature f⟩ = .ok (some f) := Call.readRow_ofFeature f
  simp only [answer, Call.key, columns, Call.onColumns, read, set_eq_self columns]

theorem writes_set (f : Feature) : t.Writes f true (t.set f.key (some (.ofFeature f))) where
  found _ counting := by
    rw [answer_stored, answer_find_of_columns?]
    rw [columns?_set, Function.update_self]
  unchanged := nofun
  others := filter_set (by simp) _

theorem writes_nothing (f : Feature) : t.Writes f false t where
  found := nofun
  unchanged _ := rfl
  others := rfl

/-- An update writes its feature if there is a row of its key. -/
theorem writes_update (f : Feature) :
    t.Writes f (t.columns? f.key).isSome (t.answer (.update f)).2 := by
  simp only [answer, Call.key]
  cases found : t.columns? f.key with
  | none =>
    simp only [Call.onColumns, set_eq_self found]
    exact t.writes_nothing f
  | some columns => exact t.writes_set f

/-- The conditional update writes the open feature if there is an expired row of its key. -/
theorem writes_expire (k : Key) (now : Instant) :
    t.Writes (.fresh k) ((t.columns? k).any (·.isExpiredAt now)) (t.answer (.expire k now)).2 := by
  simp only [answer, Call.key]
  cases found : t.columns? k with
  | none =>
    simp only [Call.onColumns, set_eq_self found]
    exact t.writes_nothing (.fresh k)
  | some columns =>
    rw [Option.any_some]
    cases lapsed : columns.isExpiredAt now with
    | false =>
      simp only [Call.onColumns, lapsed, Bool.false_eq_true, if_false, set_eq_self found]
      exact t.writes_nothing (.fresh k)
    | true =>
      simp only [Call.onColumns, lapsed, if_true, Row.released_eq k]
      exact t.writes_set (.fresh k)

theorem exists_row_iff : (t.columns? k).isSome = true ↔ ∃ r ∈ t.rows, r.key = k := by
  rw [← any_rows, List.any_eq_true]
  simp only [decide_eq_true_eq]

theorem exists_expired_iff (now : Instant) :
    (t.columns? k).any (·.isExpiredAt now) = true ↔
      ∃ r ∈ t.rows, r.key = k ∧ r.columns.locked = true ∧
        0 < r.columns.unlockTime.toInt ∧ r.columns.unlockTime.toInt < now.toInt := by
  rw [← countP_expiredRow_pos, decide_eq_true_iff, List.countP_pos_iff]
  simp only [expiredRow, Bool.and_eq_true, decide_eq_true_eq, and_assoc, Int64.lt_iff_toInt_lt]
  rfl

end Table

/-- **Updates mean the same however a database counts rows.**  Take any table in which no two rows
have one key, whatever the texts of its rows are.  Then an update, and the conditional update that
takes an expired lock off, each give one answer and leave one table, whether the rows that match are
counted or only those whose values change.  The answer tells whether there was a row of the key, and
whether there was one with a lock whose deadline has passed; if so, exactly the feature is found
that was to be written, and otherwise nothing has changed.  Rows of other keys never change. -/
theorem updates_ignore_counting (t : Table) :
    (∀ f : Feature, ∃ (found : Bool) (after : Table),
      (∀ counting, (t.stored counting).answer (.update f) = (.ok found, after.stored counting)) ∧
        (found = true ↔ ∃ r ∈ t.rows, r.key = f.key) ∧ t.Writes f found after) ∧
    ∀ (k : Key) (now : Instant), ∃ (released : Bool) (after : Table),
      (∀ counting,
        (t.stored counting).answer (.expire k now) = (.ok released, after.stored counting)) ∧
        (released = true ↔ ∃ r ∈ t.rows, r.key = k ∧ r.columns.locked = true ∧
          0 < r.columns.unlockTime.toInt ∧ r.columns.unlockTime.toInt < now.toInt) ∧
        t.Writes (.fresh k) released after := by
  refine ⟨fun f => ?_, fun k now => ?_⟩
  · refine ⟨_, _, fun counting => ?_, t.exists_row_iff, t.writes_update f⟩
    rw [t.answer_stored, t.answer_update_fst]
  · refine ⟨_, _, fun counting => ?_, t.exists_expired_iff now, t.writes_expire k now⟩
    rw [t.answer_stored, t.answer_expire_fst]

/-- A row that is overwritten with the values it had is not counted, and yet found to be there. -/
example :
    let k : Key := ⟨1, "alice", "api"⟩
    let db : Database := ⟨some [.ofFeature (.fresh k)], false, .changed, []⟩
    (db.updateWhere [.ofFeature (.fresh k)] (·.key = k) (.ofFeature (.fresh k))).1 = 0 ∧
      db.answer (.update (.fresh k)) = (.ok true, db) :=
  ⟨by decide +kernel, rfl⟩

end FeatureLock
