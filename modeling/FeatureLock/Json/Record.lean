import FeatureLock.Json.Document

/-!
# Records in JSON

A record type is read from an object that holds its fields in any order, or
from a list that holds them in order.

## Main Definitions

- `Shape`: what a field may hold
- `readShape`: a value of a shape
- `Field`, `readRecord`: the values of a record's fields, in the order of the fields

## Design Notes

A value of the wrong kind is refused as soon as its kind is known (`refuse`): a
list or an object at its opening bracket, a number or a string once it was read,
a word once it was spelled in full.  Members of other names are passed over but
have to be well-formed; a field that comes twice is refused at its second name.
-/

namespace FeatureLock.Json

/-- What the field of a record may hold. -/
inductive Shape where
  /-- an integer between two bounds -/
  | int (lo hi : Int)
  /-- a truth value -/
  | bool
  /-- a string -/
  | text
  /-- a string that is written without escapes -/
  | verbatim
  /-- a list of strings -/
  | texts
  /-- a string or null; a missing field counts as null -/
  | textOrNull
  deriving DecidableEq

/-! ### Values of a shape -/

/-- Why a value of the wrong kind is refused: it is mistyped, unless it is cut short or malformed
as far as its kind has to be read. -/
def refuse : List Char → Fault
  | [] => .cutShort
  | 'n' :: cs => settle (expect ['u', 'l', 'l'] cs)
  | 't' :: cs => settle (expect ['r', 'u', 'e'] cs)
  | 'f' :: cs => settle (expect ['a', 'l', 's', 'e'] cs)
  | '"' :: cs => settle (scanText true .plain cs)
  | '[' :: _ => .mistyped
  | '{' :: _ => .mistyped
  | c :: cs => if startsNumber c then settle (readNumber (c :: cs)) else .malformed
where
  /-- What was read well is of the wrong type. -/
  settle {α : Type} : Except Fault α → Fault
    | .ok _ => .mistyped
    | .error e => e

/-- An integer between two bounds. -/
def readInt (lo hi : Int) (cs : List Char) : Except Fault (Value × List Char) :=
  match skipSpace cs with
  | [] => .error .cutShort
  | c :: cs =>
    if startsNumber c then do
      match ← readNumber (c :: cs) with
      | (.int n, rest) => if lo ≤ n ∧ n ≤ hi then .ok (.int n, rest) else .error .mistyped
      | _ => .error .mistyped
    else .error (refuse (c :: cs))

/-- A truth value. -/
def readBool (cs : List Char) : Scan Value :=
  match skipSpace cs with
  | 't' :: cs => (expect ['r', 'u', 'e'] cs).map (.bool true, ·)
  | 'f' :: cs => (expect ['a', 'l', 's', 'e'] cs).map (.bool false, ·)
  | cs => .error (refuse cs)

/-- The characters of a string. -/
def readChars (cs : List Char) : Scan (List Char) :=
  match skipSpace cs with
  | '"' :: cs => scanText true .plain cs
  | cs => .error (refuse cs)

/-- A string. -/
def readText (cs : List Char) : Scan Value :=
  (readChars cs).map fun (s, rest) => (.text (String.ofList s), rest)

/-- Whether a string, from behind its opening quote, holds an escape. -/
def hasEscape (cs : List Char) : Bool :=
  (cs.takeWhile (· != '"')).contains '\\'

/-- A string without escapes. -/
def readVerbatim (cs : List Char) : Except Fault (Value × List Char) := do
  let found ← readText cs
  match skipSpace cs with
  | '"' :: cs => if hasEscape cs then .error .mistyped else .ok found
  | _ => .ok found

/-- The strings of a list up to its closing bracket. -/
def readTextItems : Nat → List Char → Except Fault (List String × List Char)
  | 0, _ => .error .cutShort
  | n + 1, cs => do
    let (s, cs) ← readChars cs
    match ← next ']' cs with
    | .more cs => (readTextItems n cs).map fun (ss, cs) => (String.ofList s :: ss, cs)
    | .done cs => .ok ([String.ofList s], cs)

/-- A list of strings, as strings. -/
def readStrings (cs : List Char) : Scan (List String) :=
  match skipSpace cs with
  | '[' :: cs =>
    match skipSpace cs with
    | ']' :: cs => .ok ([], cs)
    | cs => readTextItems (budget cs) cs
  | cs => .error (refuse cs)

/-- A list of strings. -/
def readTexts (cs : List Char) : Scan Value :=
  (readStrings cs).map fun (ss, rest) => (.list (ss.map .text), rest)

/-- A string or null. -/
def readTextOrNull (cs : List Char) : Scan Value :=
  match skipSpace cs with
  | 'n' :: cs => (expect ['u', 'l', 'l'] cs).map (.null, ·)
  | _ => readText cs

/-- **A value of a shape.** -/
def readShape : Shape → List Char → Scan Value
  | .int lo hi => readInt lo hi
  | .bool => readBool
  | .text => readText
  | .verbatim => readVerbatim
  | .texts => readTexts
  | .textOrNull => readTextOrNull

/-! ### Records -/

/-- A field of a record. -/
structure Field where
  name : String
  shape : Shape

/-- The fields in their order, as the items of a list. -/
def readPositions (first : Bool) : List Field → List Char → Scan (List Value)
  | [], cs =>
    match skipSpace cs with
    | [] => .error .cutShort
    | c :: cs => if c = ']' then .ok ([], cs) else .error .malformed
  | f :: fs, cs =>
    match skipSpace cs with
    | [] => .error .cutShort
    | c :: cs =>
      if c = ']' then .error .mistyped
      else if first then item f fs (c :: cs)
      else if c = ',' then item f fs cs
      else .error .malformed
where
  /-- One field and those after it. -/
  item (f : Field) (fs : List Field) (cs : List Char) :
      Except Fault (List Value × List Char) := do
    let (v, cs) ← readShape f.shape cs
    let (vs, cs) ← readPositions false fs cs
    .ok (v :: vs, cs)

/-- The members of an object up to its closing bracket: the values of the fields among them, added
to those read before. -/
def readFields (fields : List Field) :
    Nat → Entries → List Char → Except Fault (Entries × List Char)
  | 0, _, _ => .error .cutShort
  | n + 1, found, cs => do
    let (name, cs) ← scanText true .plain (← openName cs)
    let name := String.ofList name
    let (found, cs) ← match fields.find? (·.name = name) with
      | some f =>
        if (found.lookup name).isSome then .error .mistyped
        else do
          let (v, cs) ← readShape f.shape (← colon cs)
          .ok (found.put name v, cs)
      | none => do
        let cs ← colon cs
        (skipValue (budget cs) cs).map (found, ·)
    match ← next '}' cs with
    | .more cs => readFields fields n found cs
    | .done cs => .ok (found, cs)

/-- The value of a field among those found; a field that may be null may be missing. -/
def Field.pick (found : Entries) (f : Field) : Except Fault Value :=
  match found.lookup f.name with
  | some v => .ok v
  | none => if f.shape = .textOrNull then .ok .null else .error .mistyped

/-- **The values of a record's fields**, in the order of the fields. -/
def readRecord (fields : List Field) (cs : List Char) :
    Except Fault (List Value × List Char) :=
  match skipSpace cs with
  | '[' :: cs => readPositions true fields cs
  | '{' :: cs => do
    let (found, rest) ← match skipSpace cs with
      | '}' :: cs => .ok ([], cs)
      | cs => readFields fields (budget cs) [] cs
    let vs ← fields.mapM (Field.pick found)
    .ok (vs, rest)
  | cs => .error (refuse cs)

end FeatureLock.Json
