import FeatureLock.Proofs.Store.Agreement

/-!
# Stores of either kind

What is said here is said once for features in memory and in a database.

## Main Definitions

- `Backend`: where a store keeps its features
- `Backend.lay`, `Backend.empty`: a memory laid out in a store, and the store
  without features
- `Store.contents`: what a direct search finds under each key
- `Store.IsKept`: the stores that were changed by calls only
- `Store.answers`, `Store.after`: the answers to a list of calls, and the store
  once they were made

Main statements: `Backend.answer_lay`, a call on a store that was laid out, and
`Store.IsKept.answer`, which replaces such a store by its contents.
-/

namespace FeatureLock

/-- Where a store keeps its features. -/
inductive Backend where
  | memory
  | database (counting : Counting)
  deriving DecidableEq

namespace Backend

/-- The features that a memory holds, in a store. -/
def lay : Backend → Memory → Store
  | memory, m => .memory m
  | database counting, m => .database (.ofMemory counting m)

/-- The store without features; a database has its table. -/
def empty : Backend → Store
  | memory => .memory .empty
  | database counting => .database { Database.bare with counting := counting }.ensureSchema

theorem empty_eq_lay (b : Backend) : b.empty = b.lay .empty := by
  cases b <;> rfl

/-- **A call on a store is the call on the memory that it was laid out from.** -/
theorem answer_lay (b : Backend) {m : Memory} (distinct : m.Distinct) (c : Call) :
    (b.lay m).answer c = ((m.answer c).1, b.lay (m.answer c).2) := by
  cases b with
  | memory => rfl
  | database counting =>
    simp only [lay, Store.answer, Database.answer_ofMemory counting distinct]

end Backend

namespace Store

/-- What a direct search finds under each key; a search that fails finds nothing. -/
def contents (s : Store) : Contents := fun k =>
  match (s.answer (.find k)).1 with
  | .ok found => found
  | .error _ => none

theorem contents_lay (b : Backend) {m : Memory} (distinct : m.Distinct) :
    (b.lay m).contents = m.find? := by
  funext k
  simp only [contents, b.answer_lay distinct, Memory.answer]

/-- The stores that hold what a memory with distinct keys holds. -/
def IsKept (b : Backend) (s : Store) : Prop :=
  ∃ m : Memory, m.Distinct ∧ s = b.lay m

theorem isKept_empty (b : Backend) : b.empty.IsKept b :=
  ⟨.empty, Memory.distinct_empty, b.empty_eq_lay⟩

/-- A feature that is found under a key has that key. -/
theorem IsKept.key_of_contents {b : Backend} {s : Store} (h : s.IsKept b) {k : Key} {f : Feature}
    (found : s.contents k = some f) : f.key = k := by
  obtain ⟨m, distinct, rfl⟩ := h
  rw [contents_lay b distinct] at found
  exact Memory.key_of_find? found

theorem IsKept.after_answer {b : Backend} {s : Store} (h : s.IsKept b) (c : Call) :
    (s.answer c).2.IsKept b := by
  obtain ⟨m, distinct, rfl⟩ := h
  rw [b.answer_lay distinct]
  exact ⟨_, distinct.answer c, rfl⟩

/-- **A store answers a call as its contents do**, and holds what they hold afterwards. -/
theorem IsKept.answer {b : Backend} {s : Store} (h : s.IsKept b) (c : Call) :
    (s.answer c).1 = (s.contents.answer c).1 ∧
      (s.answer c).2.contents = (s.contents.answer c).2 := by
  obtain ⟨m, distinct, rfl⟩ := h
  obtain ⟨same, rows⟩ := Memory.answer_find? c m
  rw [b.answer_lay distinct, contents_lay b distinct, contents_lay b (distinct.answer c)]
  exact ⟨same, rows⟩

/-! ### Many calls -/

/-- The answers to calls that are made one after the other, and the store afterwards. -/
def answers : List Call → Store → List StoreReply × Store
  | [], s => ([], s)
  | c :: cs, s =>
    let (a, s) := s.answer c
    let (as, s) := answers cs s
    (.outcome c a :: as, s)

/-- The store once calls were made one after the other. -/
def after (cs : List Call) (s : Store) : Store :=
  (answers cs s).2

theorem answers_cons (c : Call) (cs : List Call) (s : Store) :
    answers (c :: cs) s =
      (.outcome c (s.answer c).1 :: (answers cs (s.answer c).2).1,
        (answers cs (s.answer c).2).2) := rfl

theorem IsKept.after {b : Backend} {s : Store} (h : s.IsKept b) (cs : List Call) :
    (s.after cs).IsKept b := by
  induction cs generalizing s with
  | nil => exact h
  | cons c cs ih => exact ih (h.after_answer c)

end Store

end FeatureLock
