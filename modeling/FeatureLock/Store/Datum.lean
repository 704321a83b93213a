import FeatureLock.Instant
import FeatureLock.Number.Extended

/-!
# Data written into columns by hand

A column takes any number or text.  A column of numbers turns a text that writes a
number into that number, and a column of texts turns a number into its text.

## Main Definitions

- `Datum`: a number or a text
- `Cell`: what a column of numbers holds
- `Datum.toCell`, `Datum.toText`: what becomes of a datum in a column of numbers or of
  texts
-/

namespace FeatureLock

/-- A number or a text. -/
inductive Datum where
  | number (n : Int)
  | text (s : String)
  deriving DecidableEq

/-- What a column of numbers holds: an integer, another number, or a text that writes none. -/
inductive Cell where
  | integer (n : Int)
  | real (x : Binary64)
  | text (s : String)
  deriving DecidableEq

namespace Datum

/-! ### Texts that write numbers -/

/-- White space around a number that is written as text. -/
def isSpace (c : Char) : Bool :=
  c = ' ' || ('\t' ≤ c && c ≤ '\r')

/-- The digits of an exponent; what is above some ten thousand is not told apart. -/
def readExponentDigits (cs : List Char) : Nat :=
  cs.foldl (fun e c => if e < 10000 then e * 10 + Numeral.digitValue c else 10000) 0

/-- The exponent at the end of a number: nothing, or `e`, an optional sign and digits. -/
def readExponent? : List Char → Option Int
  | [] => some 0
  | c :: cs =>
    let (negative, ds) := match cs with
      | '-' :: ds => (true, ds)
      | '+' :: ds => (false, ds)
      | ds => (false, ds)
    if (c = 'e' ∨ c = 'E') ∧ ds ≠ [] ∧ ds.all Numeral.isDigit then
      let e : Int := readExponentDigits ds
      some (if negative then -e else e)
    else none

/-- An integer that 64 bits hold. -/
def inRange? (n : Int) : Option Int :=
  if Instant.minMillis ≤ n ∧ n ≤ Instant.maxMillis then some n else none

/-- A number as a column holds it: as an integer if it is one, and neither the least nor the
greatest one that 64 bits hold. -/
def ofBinary64 (x : Binary64) : Cell :=
  match x.integer? with
  | some n => if Instant.minMillis < n ∧ n < Instant.maxMillis then .integer n else .real x
  | none => .real x

/-- The number that a text without white space around it writes.  Digits alone are exact as long as
64 bits hold their value. -/
def readNumber? (s : String) : Option Cell :=
  let (negative, cs) := match s.toList with
    | '-' :: cs => (true, cs)
    | '+' :: cs => (false, cs)
    | cs => (false, cs)
  let (whole, rest) := Numeral.spanDigits cs
  let (part, rest) := match rest with
    | '.' :: ds => Numeral.spanDigits ds
    | _ => ([], rest)
  if whole = [] ∧ part = [] then none
  else (readExponent? rest).map fun e =>
    match (Numeral.read? s).bind inRange? with
    | some n => .integer n
    | none => ofBinary64 (.ofDigits negative whole part e)

/-! ### Columns -/

/-- **What a column of numbers holds.** -/
def toCell : Datum → Cell
  | number n => .integer n
  | text s =>
    let front := s.toList.dropWhile isSpace
    let bare := String.ofList (front.reverse.dropWhile isSpace).reverse
    (readNumber? bare).getD (.text s)

/-- **The text in a column of texts.** -/
def toText : Datum → String
  | number n => Numeral.write n
  | text s => s

end Datum

end FeatureLock
