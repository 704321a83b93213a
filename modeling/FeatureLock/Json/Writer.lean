import FeatureLock.Value

/-!
# Writing JSON

Values are written compactly, the members of a table in their order.

## Main Definitions

- `escapeChar`, `quote`: a character within a string, and a whole string
- `renderFloat`: a floating-point number
- `render`, `write`: the text of a value
-/

namespace FeatureLock.Json

/-- The lower-case hexadecimal digit of a number below sixteen. -/
def hexDigit (n : Nat) : Char :=
  if n < 10 then Char.ofNat (48 + n) else Char.ofNat (87 + n)

/-- **A character as it stands within a string.**  The quote, the backslash and the control
characters below U+0020 are escaped; every other character stands for itself. -/
def escapeChar (c : Char) : List Char :=
  if c = '"' then ['\\', '"']
  else if c = '\\' then ['\\', '\\']
  else if c = '\x08' then ['\\', 'b']
  else if c = '\t' then ['\\', 't']
  else if c = '\n' then ['\\', 'n']
  else if c = '\x0c' then ['\\', 'f']
  else if c = '\r' then ['\\', 'r']
  else if c.toNat < 0x20 then
    ['\\', 'u', '0', '0', hexDigit (c.toNat / 16), hexDigit (c.toNat % 16)]
  else [c]

/-- The characters of a string, escaped. -/
def escape (cs : List Char) : List Char :=
  cs.flatMap escapeChar

/-- A string between quotes. -/
def quote (s : String) : List Char :=
  '"' :: escape s.toList ++ ['"']

/-- A decimal of the digits `ds` with the exponent `k` of their last one: in positional notation
with a point as long as it needs at most sixteen places in front of the point and four zeros behind
it, and with an exponent otherwise. -/
def renderDecimal (ds : List Char) (k : Int) : List Char :=
  let point : Int := ds.length + k
  if 0 ≤ k ∧ point ≤ 16 then ds ++ List.replicate k.toNat '0' ++ ['.', '0']
  else if 0 < point ∧ point ≤ 16 then ds.take point.toNat ++ '.' :: ds.drop point.toNat
  else if -5 < point ∧ point ≤ 0 then '0' :: '.' :: List.replicate (-point).toNat '0' ++ ds
  else
    let fraction := if ds.length = 1 then [] else '.' :: ds.drop 1
    ds.take 1 ++ fraction ++ 'e' :: Numeral.writeChars (point - 1)

/-- A floating-point number, in the fewest digits that read back; what is no finite number is
written as null. -/
def renderFloat : Binary64 → List Char
  | .finite s m e =>
    let unsigned := if m = 0 then ['0', '.', '0'] else
      let (ds, k) := Binary64.shortestDigits m e
      renderDecimal ds k
    if s then '-' :: unsigned else unsigned
  | _ => ['n', 'u', 'l', 'l']

mutual

/-- The characters of a value's text. -/
def render : Value → List Char
  | .null => ['n', 'u', 'l', 'l']
  | .bool true => ['t', 'r', 'u', 'e']
  | .bool false => ['f', 'a', 'l', 's', 'e']
  | .int n => Numeral.writeChars n
  | .float x => renderFloat x
  | .text s => quote s
  | .list vs => '[' :: renderItems vs ++ [']']
  | .table es => '{' :: renderEntries es ++ ['}']

/-- The items of a list, with commas between them. -/
def renderItems : List Value → List Char
  | [] => []
  | [v] => render v
  | v :: w :: vs => render v ++ ',' :: renderItems (w :: vs)

/-- The members of an object, with commas between them. -/
def renderEntries : List (String × Value) → List Char
  | [] => []
  | [(n, v)] => quote n ++ ':' :: render v
  | (n, v) :: e :: es => quote n ++ ':' :: render v ++ ',' :: renderEntries (e :: es)

end

/-- **The text of a value.** -/
def write (v : Value) : String :=
  String.ofList (render v)

end FeatureLock.Json
