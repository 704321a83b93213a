import FeatureLock.Proofs.Store.Contents
import FeatureLock.Proofs.Store.Table
import FeatureLock.Store

/-!
# One store, two places

A database that is written through its five calls only holds the row of a
feature wherever a memory with the same history holds the feature.  So a memory
is laid out as a table (`Database.ofMemory`), and every call commutes with that:
whether a table is laid out before or after the call makes no difference, and
the answer is the same.

## Main Definitions

- `Memory.toTable`: the rows of the features that a memory holds
- `Database.ofMemory`: the database with these rows

Main statements: `Memory.answer_toTable` and `Database.answer_ofMemory`.

## Design Notes

The law is an equation between stores, not a relation: the rows stand in the
order of the features, so nothing is lost by laying them out.  It needs distinct
keys, since an UPDATE changes all rows of a key and a search finds the first.
It holds for either way of counting rows, since a table answers in one way
however a database counts.
-/

namespace FeatureLock

/-! ### Laid out as a table -/

namespace Memory

open Database

variable {m : Memory}

/-- The rows of the features that a memory holds, in their order. -/
def toTable (m : Memory) (distinct : m.Distinct) : Table where
  rows := m.features.map Row.ofFeature
  distinct := by
    rw [List.map_map]
    exact distinct

theorem columns?_toTable (distinct : m.Distinct) (k : Key) :
    (m.toTable distinct).columns? k = (m.find? k).map Columns.ofFeature := by
  rw [Table.columns?, toTable, List.find?_map, Option.map_map]
  rfl

/-- Setting the columns of a key's rows is replacing the feature of the key. -/
theorem setWhere_key (m : Memory) (f : Feature) :
    setWhere (m.features.map Row.ofFeature) (·.key = f.key) (.ofFeature f) =
      (m.replace f).features.map Row.ofFeature := by
  simp only [setWhere, replace, List.map_map]
  apply List.map_congr_left
  intro g _
  by_cases h : g.key = f.key
  · simp [Row.ofFeature, h]
  · simp [h]

/-- Where a feature is found, setting its row is replacing it. -/
theorem set_toTable (distinct : m.Distinct) {f g : Feature} (found : m.find? f.key = some g) :
    ((m.toTable distinct).set f.key (some (.ofFeature f))).rows =
      (m.replace f).features.map Row.ofFeature := by
  rw [Table.rows_set_of_taken (by simp [columns?_toTable, found])]
  exact m.setWhere_key f

/-- Setting the columns that are there leaves the rows. -/
theorem set_toTable_same (distinct : m.Distinct) (k : Key) :
    ((m.toTable distinct).set k ((m.find? k).map Columns.ofFeature)).rows =
      m.features.map Row.ofFeature := by
  rw [Table.set_eq_self (columns?_toTable distinct k)]
  rfl

/-- **A table answers as the memory that it was laid out from**, and has then the rows of what the
memory holds afterwards. -/
theorem answer_toTable (distinct : m.Distinct) (c : Call) :
    ((m.toTable distinct).answer c).1 = (m.answer c).1 ∧
      ((m.toTable distinct).answer c).2.rows = (m.answer c).2.features.map Row.ofFeature := by
  have same := set_toTable_same distinct
  rw [Table.answer, columns?_toTable]
  cases c with
  | insert f =>
    have same := same f.key
    simp only [Call.key]
    cases found : m.find? f.key with
    | none =>
      have free := columns?_toTable distinct f.key
      rw [found] at free
      simp only [answer, found, Option.map_none, Call.onColumns, Table.rows_set_of_free free]
      exact ⟨trivial, rfl⟩
    | some g =>
      rw [found] at same
      simp only [answer, found, Option.map_some, Call.onColumns]
      exact ⟨trivial, same⟩
  | find k =>
    have same := same k
    simp only [Call.key]
    cases found : m.find? k with
    | none =>
      rw [found] at same
      simp only [answer, found, Option.map_none, Call.onColumns]
      exact ⟨trivial, same⟩
    | some f =>
      obtain rfl : f.key = k := key_of_find? found
      rw [found] at same
      simp only [answer, found, Option.map_some, Call.onColumns]
      exact ⟨Call.readRow_ofFeature f, same⟩
  | update f =>
    have same := same f.key
    simp only [Call.key]
    cases found : m.find? f.key with
    | none =>
      rw [found] at same
      simp only [answer, found, Option.map_none, Call.onColumns]
      exact ⟨trivial, same⟩
    | some g =>
      simp only [answer, found, Option.map_some, Call.onColumns]
      exact ⟨trivial, set_toTable distinct found⟩
  | expire k now =>
    have same := same k
    simp only [Call.key]
    cases found : m.find? k with
    | none =>
      rw [found] at same
      simp only [answer, found, Option.map_none, Call.onColumns]
      exact ⟨trivial, same⟩
    | some f =>
      obtain rfl : f.key = k := key_of_find? found
      rw [found] at same
      have lapsed := Columns.isExpiredAt_ofFeature f now
      cases expired : f.isExpiredAt now with
      | false =>
        rw [expired] at lapsed
        simp only [answer, found, expired, Option.map_some, Call.onColumns, lapsed,
          Bool.false_eq_true, if_false]
        exact ⟨trivial, same⟩
      | true =>
        rw [expired] at lapsed
        simp only [answer, found, expired, Option.map_some, Call.onColumns, lapsed, if_true,
          Row.released_eq f.key]
        exact ⟨trivial, set_toTable (f := f.unlocked) distinct found⟩
  | delete k =>
    simp only [Call.key, answer, Call.onColumns, Option.isSome_map]
    refine ⟨trivial, ?_⟩
    rw [Table.rows_set_none, toTable, erase, List.filter_map]
    rfl

end Memory

/-! ### Laid out in a database -/

namespace Database

/-- The table of the features that a memory holds, in their order. -/
def ofMemory (counting : Counting) (m : Memory) : Database where
  table := some (m.features.map Row.ofFeature)
  frozen := false
  counting := counting
  strays := []

variable (counting : Counting) (m : Memory)

/-- **A table answers as the memory that it was laid out from**, and is then the table of what the
memory holds afterwards. -/
theorem answer_ofMemory {m : Memory} (distinct : m.Distinct) (c : Call) :
    (ofMemory counting m).answer c = ((m.answer c).1, ofMemory counting (m.answer c).2) := by
  obtain ⟨same, rows⟩ := Memory.answer_toTable distinct c
  have answered := (m.toTable distinct).answer_stored counting c
  rw [same, Table.stored, Table.stored, rows] at answered
  exact answered

/-! ### Statements -/

theorem execute_insert (f : Feature) :
    execute (.insert (.ofFeature f)) (ofMemory counting m) =
      if (m.find? f.key).isSome then (.error .duplicate, ofMemory counting m)
      else (.ok (), ofMemory counting ⟨f :: m.features⟩) := by
  have taken : (m.features.map Row.ofFeature).any (·.key = f.key) = (m.find? f.key).isSome := by
    rw [Bool.eq_iff_iff, List.any_map, List.any_eq_true, Memory.find?, List.find?_isSome]
    rfl
  rw [← taken]
  rfl

theorem execute_select (k : Key) :
    execute (.select k) (ofMemory counting m) =
      (.ok ((m.find? k).map Row.ofFeature), ofMemory counting m) := by
  have row : (m.features.map Row.ofFeature).find? (·.key = k) = (m.find? k).map Row.ofFeature := by
    rw [List.find?_map]
    rfl
  rw [← row]
  rfl

theorem execute_update (f : Feature) :
    execute (.update f.key (.ofFeature f)) (ofMemory counting m) =
      (.ok (affected counting (m.features.map Row.ofFeature) (·.key = f.key) (.ofFeature f)),
        ofMemory counting (m.replace f)) := by
  simp only [ofMemory, ← m.setWhere_key]
  rfl

theorem execute_count (k : Key) :
    execute (.count k) (ofMemory counting m) =
      (.ok ((m.features.map Row.ofFeature).countP (·.key = k)), ofMemory counting m) := rfl

/-- The conditional UPDATE is all that the call is made of, so it leaves what the call does. -/
theorem execute_expire {m : Memory} (distinct : m.Distinct) (k : Key) (now : Instant) :
    (execute (.expire k now) (ofMemory counting m)).2 =
      ofMemory counting (m.answer (.expire k now)).2 :=
  congrArg Prod.snd (answer_ofMemory counting distinct (.expire k now))

theorem execute_delete (k : Key) :
    execute (.delete k) (ofMemory counting m) =
      (.ok ((m.features.map Row.ofFeature).countP (·.key = k)),
        ofMemory counting (m.erase k)) := by
  have rows : (m.features.map Row.ofFeature).filter (·.key ≠ k) =
      (m.erase k).features.map Row.ofFeature := by
    rw [List.filter_map]
    rfl
  simp only [ofMemory, ← rows]
  rfl

end Database

end FeatureLock
