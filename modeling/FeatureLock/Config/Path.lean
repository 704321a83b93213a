import FeatureLock.Value

/-!
# Paths into structured values

A setting is addressed by a path: a name, and then names and positions.  Paths
are written with points and brackets, as in `featgate.lock.reasons[0].code`.

## Main Definitions

- `Path`: a name or position after another; `Path.read?`, `Path.write`
- `Value.get?`: the value at a path
- `Value.place`: change the value at a path, which is made to exist
- `Value.merge`, `Value.overlay`: lay one value over another, at a path
-/

namespace FeatureLock

/-- One step of a path: a name in a table, or a position in a list. -/
inductive PathStep where
  | name (n : String)
  /-- a negative position counts from the end -/
  | position (i : Int)
  deriving DecidableEq

/-- The steps from a root to a value. -/
abbrev Path := List PathStep

namespace Path

/-- The path of names. -/
def ofNames (names : List String) : Path :=
  names.map .name

/-! ### Written paths -/

/-- The characters of a name within a written path. -/
def isNameChar (c : Char) : Bool :=
  ('a' ≤ c && c ≤ 'z') || ('A' ≤ c && c ≤ 'Z') || ('0' ≤ c && c ≤ '9') || c = '_' || c = '-'

/-- Spaces and tabs, which may surround a position. -/
def isGap (c : Char) : Bool :=
  c = ' ' || c = '\t'

/-- A position: an integer of 64 bits with an optional minus sign. -/
def readPosition? (cs : List Char) : Option Int :=
  let bare := ((cs.dropWhile isGap).reverse.dropWhile isGap).reverse
  let n? : Option Int := match bare with
    | '-' :: ds => (Numeral.readDigits? ds).map fun n => -(n : Int)
    | ds => (Numeral.readDigits? ds).map fun n => (n : Int)
  n?.filter fun n => -9223372036854775808 ≤ n ∧ n ≤ 9223372036854775807

/-- The parts of a written path while it is taken apart. -/
inductive Reading where
  /-- within a name -/
  | name (chars : List Char)
  /-- within the brackets of a position -/
  | position (chars : List Char)
  /-- behind the brackets of a position -/
  | closed

/-- Take a written path apart, one character after the other.  The steps that are complete are
held in reverse. -/
def readFrom : Reading → Path → List Char → Option Path
  | .name [], _, [] => none
  | .name cs, found, [] => some (.name (String.ofList cs.reverse) :: found).reverse
  | .position _, _, [] => none
  | .closed, found, [] => some found.reverse
  | .name cs, found, c :: rest =>
    if isNameChar c then readFrom (.name (c :: cs)) found rest
    else if cs = [] then none
    else
      let found := .name (String.ofList cs.reverse) :: found
      if c = '.' then readFrom (.name []) found rest
      else if c = '[' then readFrom (.position []) found rest
      else none
  | .position cs, found, c :: rest =>
    if c = ']' then
      match readPosition? cs.reverse with
      | some i => readFrom .closed (.position i :: found) rest
      | none => none
    else readFrom (.position (c :: cs)) found rest
  | .closed, found, c :: rest =>
    if c = '.' then readFrom (.name []) found rest
    else if c = '[' then readFrom (.position []) found rest
    else none

/-- **The path that a text writes**, if it writes one. -/
def read? (s : String) : Option Path :=
  readFrom (.name []) [] s.toList

/-- The path of a key at the root of a layer; a key that writes no path is one name. -/
def ofKey (key : String) : Path :=
  (read? key).getD [.name key]

/-- A path with a point before each name but the first. -/
def write : Path → String
  | [] => ""
  | .name n :: rest => n ++ go rest
  | .position i :: rest => "[" ++ Numeral.write i ++ "]" ++ go rest
where
  /-- The steps after the first. -/
  go : Path → String
    | [] => ""
    | .name n :: rest => "." ++ n ++ go rest
    | .position i :: rest => "[" ++ Numeral.write i ++ "]" ++ go rest

end Path

namespace Value

/-- The items of a list; any other value has none. -/
def items : Value → List Value
  | list vs => vs
  | _ => []

/-! ### Looking up -/

/-- The index that a position means in a list of some length, if it is within the list. -/
def indexIn? (i : Int) (length : Nat) : Option Nat :=
  if 0 ≤ i then some i.toNat
  else if i.natAbs ≤ length then some (length - i.natAbs) else none

/-- The value at a step. -/
def step? : PathStep → Value → Option Value
  | .name n, v => v.field? n
  | .position i, list vs => (indexIn? i vs.length).bind (vs[·]?)
  | .position _, _ => none

/-- **The value at a path**, if all of the path exists. -/
def get? : Path → Value → Option Value
  | [], v => some v
  | s :: rest, v => (v.step? s).bind (get? rest)

/-! ### Changing -/

/-- A list in which a position exists, filled up with nulls behind or in front, and the index of
the position. -/
def reach (i : Int) (vs : List Value) : List Value × Nat :=
  if 0 ≤ i then (vs ++ List.replicate (i.toNat + 1 - vs.length) null, i.toNat)
  else if i.natAbs ≤ vs.length then (vs, vs.length - i.natAbs)
  else (List.replicate (i.natAbs - vs.length) null ++ vs, 0)

/-- **Change the value at a path.**  What is missing on the way is made, starting from null, and
what stands in the way is replaced. -/
def place (f : Value → Value) : Path → Value → Value
  | [], v => f v
  | .name n :: rest, v =>
    table (v.entries.put n (place f rest ((v.entries.lookup n).getD null)))
  | .position i :: rest, v =>
    let (vs, k) := reach i v.items
    list (vs.set k (place f rest (vs[k]?.getD null)))

mutual

/-- **Lay a value over another.**  A table is laid over a table entry by entry, and over anything
else as over the empty table, but a table without entries changes nothing there is; any other value
takes the place of what it is laid over. -/
def merge : Value → Value → Value
  | null, table es => table (mergeEntries [] es)
  | base, table es => if es.isEmpty then base else table (mergeEntries base.entries es)
  | _, v => v

/-- Lay entries over entries, one after the other. -/
def mergeEntries : Entries → List (String × Value) → Entries
  | base, [] => base
  | base, (n, v) :: es =>
    mergeEntries (base.put n (merge ((base.lookup n).getD null) v)) es

end

/-- A value with another one laid over what stands at a path. -/
def overlay (base : Value) (path : Path) (v : Value) : Value :=
  place (fun old => merge old v) path base

/-! ### What stands at a path -/

theorem lt_length_reach (i : Int) (vs : List Value) : (reach i vs).2 < (reach i vs).1.length := by
  unfold reach
  split
  · simp only [List.length_append, List.length_replicate]
    omega
  · split
    · simp only
      omega
    · simp only [List.length_append, List.length_replicate]
      omega

end Value

end FeatureLock
