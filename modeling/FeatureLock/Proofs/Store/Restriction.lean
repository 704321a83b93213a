import FeatureLock.Proofs.Contract
import FeatureLock.Store
import Mathlib.Data.List.Basic

/-!
# What a store holds under one key

A store is cut down to one key by leaving out all rows of other keys.  What a call
answers, and what it leaves under its own key, can be told from the store that is cut
down to that key; and what is left of the store under any other key does not change.
So a store is a store for each key, side by side with all others.

## Main Definitions

- `Memory.only`, `Database.only`, `Store.only`: what is there under one key
- `Statement.under`: the contract of programs that execute statements under one key only

Main statements: `Store.answer_only`, a call on the store that is cut down to its key, and
`Store.only_answer_of_ne`, a call under another key.

## Design Notes

Nothing is assumed of the store.  Its table may be missing or frozen, may hold several
rows of one key, texts that are no reasons, and strays; and it may count rows in either
way.
-/

namespace FeatureLock

/-! ### What is kept under keys -/

namespace Key

variable {α : Type} {k k' : Key} {key : α → Key}

theorem find?_filter (key : α → Key) (k : Key) (xs : List α) :
    (xs.filter (key · = k)).find? (key · = k) = xs.find? (key · = k) := by
  simp [List.find?_filter]

/-- What is kept under one key does not depend on what is kept under another. -/
theorem filter_filter_ne (key : α → Key) (other : k ≠ k') (xs : List α) :
    (xs.filter (key · ≠ k')).filter (key · = k) = xs.filter (key · = k) := by
  rw [List.filter_filter]
  apply List.filter_congr
  intro x _
  by_cases own : key x = k
  · simpa [own] using other
  · simp [own]

/-- Changes that leave the keys as they are can be made before and after the others are left out. -/
theorem filter_map_of_key {change : α → α} (keeps : ∀ x, key (change x) = key x) (xs : List α) :
    (xs.map change).filter (key · = k) = (xs.filter (key · = k)).map change := by
  simp only [List.filter_map, Function.comp_def, keeps]

/-- Changes under other keys do not count. -/
theorem filter_map_of_ne {change : α → α} (keeps : ∀ x, key (change x) = key x)
    (spares : ∀ x, key x = k → change x = x) (xs : List α) :
    (xs.map change).filter (key · = k) = xs.filter (key · = k) := by
  rw [filter_map_of_key keeps]
  refine (List.map_congr_left fun x mem => spares x ?_).trans (List.map_id _)
  simpa using List.of_mem_filter mem

end Key

/-! ### In memory -/

namespace Memory

/-- The features of one key. -/
def only (m : Memory) (k : Key) : Memory :=
  ⟨m.features.filter (·.key = k)⟩

variable {m : Memory} {k : Key} {f : Feature}

theorem find?_only (m : Memory) (k : Key) : (m.only k).find? k = m.find? k :=
  Key.find?_filter Feature.key k m.features

theorem key_replaced (f g : Feature) : (if g.key = f.key then f else g).key = g.key := by
  split
  · next own => exact own.symm
  · rfl

theorem only_replace (m : Memory) (f : Feature) (k : Key) :
    (m.replace f).only k = (m.only k).replace f :=
  congrArg Memory.mk (Key.filter_map_of_key (key_replaced f) m.features)

theorem only_replace_of_ne (other : k ≠ f.key) : (m.replace f).only k = m.only k := by
  refine congrArg Memory.mk (Key.filter_map_of_ne (key_replaced f) (fun g own => ?_) m.features)
  exact if_neg fun same => other (own.symm.trans same)

/-- **A call on the features of its key** answers as it does among all others, and leaves the
features of its key. -/
theorem answer_only {c : Call} (key : c.key = k) (m : Memory) :
    (m.only k).answer c = ((m.answer c).1, (m.answer c).2.only k) := by
  cases c with
  | insert f =>
    obtain rfl : f.key = k := key
    simp only [answer, find?_only]
    cases m.find? f.key with
    | some g => rfl
    | none => simp [only]
  | find k' =>
    obtain rfl : k' = k := key
    simp only [answer, find?_only]
  | update f =>
    obtain rfl : f.key = k := key
    simp only [answer, find?_only]
    cases m.find? f.key with
    | some g => simp only [only_replace]
    | none => rfl
  | expire k' now =>
    obtain rfl : k' = k := key
    simp only [answer, find?_only]
    cases m.find? k' with
    | none => rfl
    | some f =>
      dsimp only
      split
      · rw [only_replace]
      · rfl
  | delete k' =>
    obtain rfl : k' = k := key
    simp only [answer, find?_only]
    simp only [only, erase, List.filter_filter, Bool.and_comm]

/-- A call leaves the features of other keys. -/
theorem only_answer_of_ne (c : Call) (m : Memory) (other : k ≠ c.key) :
    (m.answer c).2.only k = m.only k := by
  cases c with
  | insert f =>
    simp only [answer]
    split
    · rfl
    · have ne : f.key ≠ k := fun own => other own.symm
      simp [only, ne]
  | find k' => rfl
  | update f =>
    simp only [answer]
    split
    · exact only_replace_of_ne other
    · rfl
  | expire k' now =>
    simp only [answer]
    split
    · next f found =>
      have key : f.key = k' := by simpa using List.find?_some found
      split
      · exact only_replace_of_ne fun own => other (own.trans key)
      · rfl
    · rfl
  | delete k' => exact congrArg Memory.mk (Key.filter_filter_ne Feature.key other m.features)

end Memory

/-! ### In a database -/

namespace Statement

/-- **The contract of programs that execute statements under one key only.** -/
def under (k : Key) : Contract Statement Result where
  asks s := s.key = k
  answers _ _ := True

end Statement

namespace Database

/-- The rows and the strays of one key. -/
def only (db : Database) (k : Key) : Database :=
  { db with
    table := db.table.map fun rows => rows.filter (·.key = k)
    strays := db.strays.filter (·.1 = k) }

variable {db : Database} {k : Key} {rows : List Row} {selected : Row → Bool}

/-! #### Rows -/

theorem countP_only (own : ∀ r, selected r = true → r.key = k) (rows : List Row) :
    (rows.filter (·.key = k)).countP selected = rows.countP selected := by
  rw [List.countP_filter]
  refine List.countP_congr fun r _ => ?_
  constructor
  · intro both
    exact (Bool.and_eq_true_iff.mp both).1
  · intro holds
    simp [holds, own r holds]

theorem affected_only (own : ∀ r, selected r = true → r.key = k) (counting : Counting)
    (rows : List Row) (columns : Columns) :
    affected counting (rows.filter (·.key = k)) selected columns =
      affected counting rows selected columns := by
  cases counting with
  | matched => exact countP_only own rows
  | changed => exact countP_only (fun r both => own r (Bool.and_eq_true_iff.mp both).1) rows

theorem key_set (selected : Row → Bool) (columns : Columns) (r : Row) :
    (if selected r then { r with columns := columns } else r).key = r.key := by
  split <;> rfl

/-- **An UPDATE of rows of one key** counts and sets them as it does among all others. -/
theorem updateWhere_only (own : ∀ r, selected r = true → r.key = k) (rows : List Row)
    (columns : Columns) :
    (db.only k).updateWhere (rows.filter (·.key = k)) selected columns =
      ((db.updateWhere rows selected columns).1,
        (db.updateWhere rows selected columns).2.only k) := by
  have set : setWhere (rows.filter (·.key = k)) selected columns =
      (setWhere rows selected columns).filter (·.key = k) :=
    (Key.filter_map_of_key (key_set selected columns) rows).symm
  cases frozen : db.frozen with
  | true => simp only [updateWhere, only, frozen, if_true]
  | false => simp [updateWhere, only, frozen, affected_only own, set]

theorem only_updateWhere_of_ne (other : ∀ r, selected r = true → r.key ≠ k)
    (table : db.table = some rows) (columns : Columns) :
    (db.updateWhere rows selected columns).2.only k = db.only k := by
  have set : (setWhere rows selected columns).filter (·.key = k) = rows.filter (·.key = k) :=
    Key.filter_map_of_ne (key_set selected columns)
      (fun r own => if_neg fun sets => other r sets own) rows
  cases frozen : db.frozen with
  | true => simp only [updateWhere, frozen, if_true]
  | false => simp [updateWhere, only, frozen, set, table]

/-! #### Strays -/

theorem stray?_only (db : Database) (k : Key) (column : Column) :
    (db.only k).stray? k column = db.stray? k column := by
  simp only [stray?, only, List.find?_filter]
  congr 2
  funext s
  by_cases own : s.1 = k <;> simp [own]

theorem isReadable_only (db : Database) (k : Key) : (db.only k).isReadable k = db.isReadable k := by
  simp only [isReadable, only, List.all_filter]
  congr 1
  funext s
  by_cases own : s.1 = k <;> simp [own]

theorem forget_only (db : Database) (k : Key) : (db.only k).forget k = (db.forget k).only k := by
  simp only [forget, only, List.filter_filter, Bool.and_comm]

theorem only_forget_of_ne {k' : Key} (other : k ≠ k') (db : Database) :
    (db.forget k').only k = db.only k := by
  simp only [forget, only, Key.filter_filter_ne Prod.fst other]

/-- A row that holds an expired lock of a key has that key. -/
theorem key_of_expired {flag deadline : Option Stray} {now : Instant} {r : Row}
    (lapsed : expired flag deadline k now r = true) : r.key = k := by
  unfold expired at lapsed
  split at lapsed
  · simp only [expiredRow, Bool.and_eq_true, decide_eq_true_eq] at lapsed
    exact lapsed.1.1.1
  · simp only [Bool.and_eq_true, decide_eq_true_eq] at lapsed
    exact lapsed.1.1.1
  · cases lapsed

/-! #### Statements -/

/-- **A statement on the rows of its key** answers as it does among all others, and leaves the rows
of its key. -/
theorem execute_only {s : Statement} (key : s.key = k) (db : Database) :
    execute s (db.only k) = ((execute s db).1, (execute s db).2.only k) := by
  cases table : db.table with
  | none => simp only [execute, only, table, Option.map_none]
  | some rows =>
    have left : (db.only k).table = some (rows.filter (·.key = k)) := by
      simp only [only, table, Option.map_some]
    simp only [execute, table, left]
    cases s with
    | insert r =>
      obtain rfl : r.key = k := key
      have taken :
          (rows.filter (·.key = r.key)).any (·.key = r.key) = rows.any (·.key = r.key) := by
        simp [List.any_filter]
      simp only [taken]
      split
      · rfl
      · simp [only]
    | select k' =>
      obtain rfl : k' = k := key
      simp only [isReadable_only, Key.find?_filter Row.key]
    | update k' columns =>
      obtain rfl : k' = k := key
      simp only [updateWhere_only fun _ own => of_decide_eq_true own]
      refine congrArg (Prod.mk _) ?_
      cases (db.updateWhere rows (fun r => decide (r.key = k')) columns).2 with
      | mk table frozen counting strays =>
        cases frozen with
        | true => rfl
        | false => exact forget_only _ k'
    | count k' =>
      obtain rfl : k' = k := key
      simp only [countP_only fun _ own => of_decide_eq_true own]
    | expire k' now =>
      obtain rfl : k' = k := key
      simp only [stray?_only, updateWhere_only fun _ lapsed => key_of_expired lapsed]
      split
      · rfl
      · simp only [forget_only]
    | delete k' =>
      obtain rfl : k' = k := key
      simp only [countP_only fun _ own => of_decide_eq_true own]
      simp only [only, forget, List.filter_filter, Bool.and_comm, Option.map_some]

/-- A statement leaves the rows of other keys. -/
theorem only_execute_of_ne (s : Statement) (db : Database) (other : k ≠ s.key) :
    (execute s db).2.only k = db.only k := by
  cases table : db.table with
  | none => simp only [execute, table]
  | some rows =>
    simp only [execute, table]
    cases s with
    | insert r =>
      have ne : r.key ≠ k := fun own => other own.symm
      simp only
      split
      · rfl
      · simp [only, table, ne]
    | select k' => rfl
    | update k' columns =>
      have elsewhere : ∀ r : Row, decide (r.key = k') = true → r.key ≠ k :=
        fun r own key => other (key.symm.trans (of_decide_eq_true own))
      have set := only_updateWhere_of_ne elsewhere table columns
      simp only
      split
      · exact set
      · exact (only_forget_of_ne other _).trans set
    | count k' => rfl
    | expire k' now =>
      have elsewhere : ∀ r,
          expired (db.stray? k' .locked) (db.stray? k' .unlockTime) k' now r = true → r.key ≠ k :=
        fun r lapsed key => other (key.symm.trans (key_of_expired lapsed))
      have set := only_updateWhere_of_ne elsewhere table .released
      simp only
      split
      · exact set
      · exact (only_forget_of_ne other _).trans set
    | delete k' =>
      have ne : k ≠ k' := other
      simp only [only, forget, table, Option.map_some, Key.filter_filter_ne Row.key ne,
        Key.filter_filter_ne Prod.fst ne]

/-! #### Calls -/

/-- **What is reported of a statement** has its code and its key, unless an INSERT finds its key
taken. -/
theorem report_cases (s : Statement) (fault : StatementFault) :
    report s fault = .server s.code s.key fault.cause ∨
      ∃ r, s = .insert r ∧ fault = .duplicate ∧ report s fault = .alreadyExists r.key := by
  cases s with
  | insert r =>
    cases fault with
    | duplicate => exact .inr ⟨r, rfl, rfl, rfl⟩
    | failed cause => exact .inl rfl
  | _ => exact .inl rfl

/-- **A failure that is reported names the key of its statement.** -/
theorem key_report (s : Statement) (fault : StatementFault) :
    (report s fault).key? = some s.key := by
  rcases report_cases s fault with server | ⟨r, rfl, -, taken⟩
  · rw [server]
    rfl
  · rw [taken]
    rfl

/-- A statement under the key of a call, which reports its failure and goes on otherwise. -/
theorem fulfils_under {c : Call} {s : Statement} {next : s.Result → Statements (Outcome c)}
    (key : s.key = c.key)
    (fails : ∀ fault, next (.error fault) = .done (.error (report s fault)))
    (rest : ∀ a, (next (.ok a)).Fulfils (Statement.under c.key) fun outcome =>
      ∀ e, outcome = .error e → e.key? = some c.key) :
    Program.Fulfils (Statement.under c.key)
      (fun outcome => ∀ e, outcome = .error e → e.key? = some c.key) (.ask s next) := by
  refine ⟨key, fun result _ => ?_⟩
  cases result with
  | ok a => exact rest a
  | error fault =>
    rw [fails fault]
    rintro _ ⟨⟩
    rw [← key]
    exact key_report s fault

/-- The statements of a call are under its key, and its failure names it. -/
theorem gateway_under (c : Call) :
    (gateway c).Fulfils (Statement.under c.key) fun outcome =>
      ∀ e, outcome = .error e → e.key? = some c.key := by
  cases c with
  | insert f => exact fulfils_under rfl (fun _ => rfl) fun _ => nofun
  | find k =>
    refine fulfils_under rfl (fun _ => rfl) fun found => ?_
    rcases found with _ | r
    · exact nofun
    · dsimp only
      cases r.toFeature with
      | ok f => exact nofun
      | error why =>
        rintro _ ⟨⟩
        rfl
  | update f =>
    refine fulfils_under rfl (fun _ => rfl) fun n => ?_
    cases n with
    | zero => exact fulfils_under rfl (fun _ => rfl) fun _ => nofun
    | succ n => exact nofun
  | expire k now => exact fulfils_under rfl (fun _ => rfl) fun _ => nofun
  | delete k => exact fulfils_under rfl (fun _ => rfl) fun _ => nofun

/-- A call on the rows of its key, however many statements it has. -/
theorem answer_only {c : Call} (key : c.key = k) (db : Database) :
    (db.only k).answer c = ((db.answer c).1, (db.answer c).2.only k) := by
  subst key
  have alike : ∀ (s : Statement) (x y : Database),
      (Statement.under c.key).asks s → x = y.only c.key →
      (execute s x).1 = (execute s y).1 ∧ True ∧ (execute s x).2 = (execute s y).2.only c.key := by
    rintro s x y key rfl
    rw [execute_only key]
    exact ⟨rfl, trivial, rfl⟩
  obtain ⟨same, rest⟩ := (gateway_under c).run_related alike (s := db.only c.key) (t := db) rfl
  exact Prod.ext same rest

theorem only_answer_of_ne (c : Call) (db : Database) (other : k ≠ c.key) :
    (db.answer c).2.only k = db.only k := by
  have keeps : ∀ (s : Statement) (x : Database), (Statement.under c.key).asks s →
      x.only k = db.only k → True ∧ (execute s x).2.only k = db.only k := by
    intro s x key same
    exact ⟨trivial, (only_execute_of_ne s x fun own => other (own.trans key)).trans same⟩
  exact ((gateway_under c).run_keeps keeps rfl).2

end Database

/-! ### Stores -/

namespace Store

/-- **What a store holds under one key.** -/
def only (s : Store) (k : Key) : Store :=
  match s with
  | memory m => memory (m.only k)
  | database db => database (db.only k)

/-- **A call is answered by what the store holds under its key**, and changes that. -/
theorem answer_only {c : Call} {k : Key} (key : c.key = k) (s : Store) :
    (s.only k).answer c = ((s.answer c).1, (s.answer c).2.only k) := by
  cases s with
  | memory m => simp only [only, answer, Memory.answer_only key]
  | database db => simp only [only, answer, Database.answer_only key]

/-- **A call leaves alone what the store holds under other keys.** -/
theorem only_answer_of_ne (c : Call) (s : Store) {k : Key} (other : k ≠ c.key) :
    (s.answer c).2.only k = s.only k := by
  cases s with
  | memory m => exact congrArg memory (Memory.only_answer_of_ne c m other)
  | database db => exact congrArg database (Database.only_answer_of_ne c db other)

/-- Two stores that hold the same under the key of a call answer it alike, and hold the same under
the key afterwards. -/
theorem answer_of_only_eq {c : Call} {k : Key} (key : c.key = k) {s t : Store}
    (same : s.only k = t.only k) :
    (s.answer c).1 = (t.answer c).1 ∧ (s.answer c).2.only k = (t.answer c).2.only k := by
  have left := answer_only key s
  have right := answer_only key t
  rw [same, right] at left
  exact Prod.mk.inj left.symm

end Store

end FeatureLock
