import FeatureLock.Number.Binary64

/-!
# Structured values

JSON texts, YAML texts, environment variables and command lines all denote
values of one kind: scalars, lists, and tables from names to values.

## Main Definitions

- `Value`: a structured value
- `Entries`: the entries of a table, in order, with `lookup` and `put`

Main statements: `lookup_put_self` and `lookup_put_of_ne`, which say what a
look-up finds after an entry was put.
-/

namespace FeatureLock

/-- A structured value. -/
inductive Value where
  | null
  | bool (b : Bool)
  | int (n : Int)
  | float (x : Binary64)
  | text (s : String)
  | list (items : List Value)
  | table (entries : List (String × Value))

/-- The entries of a table.  A table that was built by `put` holds each name once. -/
abbrev Entries := List (String × Value)

namespace Entries

/-- The value under a name. -/
def lookup (name : String) : Entries → Option Value
  | [] => none
  | (n, v) :: es => if n = name then some v else lookup name es

/-- Set the value under a name, in place when the name is there already and at the end otherwise. -/
def put (name : String) (v : Value) : Entries → Entries
  | [] => [(name, v)]
  | (n, w) :: es => if n = name then (n, v) :: es else (n, w) :: put name v es

@[simp] theorem lookup_put_self (name : String) (v : Value) (es : Entries) :
    lookup name (put name v es) = some v := by
  induction es with
  | nil => simp [put, lookup]
  | cons e es ih =>
    obtain ⟨n, w⟩ := e
    by_cases h : n = name <;> simp [put, lookup, h, ih]

theorem lookup_put_of_ne {name other : String} (h : other ≠ name) (v : Value) (es : Entries) :
    lookup other (put name v es) = lookup other es := by
  induction es with
  | nil => simp [put, lookup, h.symm]
  | cons e es ih =>
    obtain ⟨n, w⟩ := e
    by_cases hn : n = name
    · subst hn
      simp [put, lookup, h.symm]
    · by_cases ho : n = other
      · subst ho
        simp [put, lookup, hn]
      · simp [put, lookup, hn, ho, ih]

end Entries

namespace Value

/-- The entries of a table; any other value has none. -/
def entries : Value → Entries
  | table es => es
  | _ => []

/-- The value under a name of a table; any other value holds no names. -/
def field? (name : String) : Value → Option Value
  | table es => es.lookup name
  | _ => none

end Value

end FeatureLock
