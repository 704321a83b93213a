import FeatureLock.Json.Token

/-!
# Percent encoding

A percent sign with two hexadecimal digits stands for a byte; every other character
stands for its own bytes.

## Main Definitions

- `percentBytes`, `percentDecode?`: the bytes and the text that a percent-encoded text
  stands for
- `fields`, `formFields`: the names and values of parameters in one line

## Design Notes

The bytes of a parameter need not be a text.
-/

namespace FeatureLock.Text

/-- **The bytes that a percent-encoded text stands for.** -/
def percentBytes : List Char → List UInt8
  | '%' :: a :: b :: cs =>
    match Json.hexValue? a, Json.hexValue? b with
    | some high, some low => UInt8.ofNat (high * 16 + low) :: percentBytes cs
    | _, _ => 37 :: percentBytes (a :: b :: cs)
  | c :: cs => (String.singleton c).toUTF8.toList ++ percentBytes cs
  | [] => []

/-- The text of some bytes, if they are one. -/
def ofBytes? (bs : List UInt8) : Option String :=
  String.fromUTF8? ⟨bs.toArray⟩

/-- The text that a percent-encoded text stands for, if its bytes are one. -/
def percentDecode? (cs : List Char) : Option String :=
  ofBytes? (percentBytes cs)

/-- The parts of a text between separators; empty parts do not count. -/
def splitAt (separator : Char) (cs : List Char) : List (List Char) :=
  (cs.splitBy fun a b => a ≠ separator && b ≠ separator).filter (· ≠ [separator])

/-- A parameter: its name and its value. -/
abbrev Field := List UInt8 × List UInt8

/-- **The names and values of parameters in one line**, in order. -/
def fields (cs : List Char) : List Field :=
  (splitAt '&' cs).map fun field =>
    let name := field.takeWhile (· ≠ '=')
    (percentBytes name, percentBytes (field.drop (name.length + 1)))

/-- The names and values of a form in one line, where a plus sign stands for a space. -/
def formFields (cs : List Char) : List Field :=
  fields (cs.map fun c => if c = '+' then ' ' else c)

end FeatureLock.Text
