import FeatureLock.Value

/-!
# The tokens of a JSON text

A JSON text is read from left to right and the first problem met decides.
Every reader here takes the characters still to be read and answers with what
it read and the characters after it, or with the kind of the problem.

## Main Definitions

- `Fault`: the kinds of problems
- `skipSpace`, `expect`: white space between tokens, and the rest of a word
- `scanText`: the characters of a string, up to its closing quote
- `scanNumber`, `NumberText.toValue`: the text of a number, and its value

## Design Notes

`scanText` is one structural recursion over the characters.  What the characters
before the current one ask for is its `Mode`, so an escape of up to twelve
characters needs no look-ahead, but for one rule: a `\u` escape that is followed
by fewer than four bytes is cut short, whatever those bytes are.
-/

namespace FeatureLock.Json

/-- Why a text was refused: it ended too early, it is no JSON text, or it is well-formed as far
as it was read but does not hold a value of the wanted type. -/
inductive Fault where
  | cutShort
  | malformed
  | mistyped
  deriving DecidableEq

/-- What was read and the characters after it, or the first problem. -/
abbrev Scan (α : Type) := Except Fault (α × List Char)

/-- White space between tokens: space, tab, line feed and carriage return. -/
def isSpace (c : Char) : Bool :=
  c = ' ' || c = '\t' || c = '\n' || c = '\r'

/-- The characters from the next token on. -/
def skipSpace (cs : List Char) : List Char :=
  cs.dropWhile isSpace

/-- The characters after a given word. -/
def expect : List Char → List Char → Except Fault (List Char)
  | [], cs => .ok cs
  | _ :: _, [] => .error .cutShort
  | w :: ws, c :: cs => if c = w then expect ws cs else .error .malformed

/-! ### Strings -/

/-- The character that a one-letter escape stands for. -/
def escaped? : Char → Option Char
  | '"' => some '"'
  | '\\' => some '\\'
  | '/' => some '/'
  | 'b' => some '\x08'
  | 'f' => some '\x0c'
  | 'n' => some '\n'
  | 'r' => some '\r'
  | 't' => some '\t'
  | _ => none

/-- The value of a hexadecimal digit of either case. -/
def hexValue? (c : Char) : Option Nat :=
  if '0' ≤ c ∧ c ≤ '9' then some (c.toNat - 48)
  else if 'a' ≤ c ∧ c ≤ 'f' then some (c.toNat - 87)
  else if 'A' ≤ c ∧ c ≤ 'F' then some (c.toNat - 55)
  else none

/-- The first half of a surrogate pair. -/
def isLeading (n : Nat) : Bool := 0xD800 ≤ n && n ≤ 0xDBFF

/-- The second half of a surrogate pair. -/
def isTrailing (n : Nat) : Bool := 0xDC00 ≤ n && n ≤ 0xDFFF

/-- The character that a surrogate pair stands for. -/
def joinPair (lead trail : Nat) : Char :=
  Char.ofNat (0x10000 + (lead - 0xD800) * 0x400 + (trail - 0xDC00))

/-- At least four bytes are left. -/
def hasFourBytes (cs : List Char) : Bool :=
  4 ≤ (cs.take 4).foldl (fun n c => n + c.utf8Size) 0

/-- What the characters of a string read so far ask of the next one. -/
inductive Mode where
  /-- anything that may stand in a string -/
  | plain
  /-- the letter of an escape -/
  | escape
  /-- one of the last `left + 1` digits of a hexadecimal escape, perhaps after a first surrogate -/
  | hex (lead : Option Nat) (left : Nat) (code : Nat)
  /-- the backslash of the escape that completes a surrogate pair -/
  | pairSlash (lead : Nat)
  /-- the letter of the escape that completes a surrogate pair -/
  | pairLetter (lead : Nat)

/-- Put a character in front of what the rest of a string holds. -/
def pushChar (c : Char) : Scan (List Char) → Scan (List Char)
  | .ok (cs, rest) => .ok (c :: cs, rest)
  | .error e => .error e

/-- **The characters of a string up to its closing quote**, and the characters after the quote.
With `strict` a lone surrogate is malformed; without it such an escape is passed over. -/
def scanText (strict : Bool) : Mode → List Char → Scan (List Char)
  | _, [] => .error .cutShort
  | .plain, c :: cs =>
    if c = '"' then .ok ([], cs)
    else if c = '\\' then scanText strict .escape cs
    else if c.toNat < 0x20 then .error .malformed
    else pushChar c (scanText strict .plain cs)
  | .escape, c :: cs =>
    match escaped? c with
    | some d => pushChar d (scanText strict .plain cs)
    | none =>
      if c = 'u' then
        if hasFourBytes cs then scanText strict (.hex none 3 0) cs else .error .cutShort
      else .error .malformed
  | .hex lead left code, c :: cs =>
    match hexValue? c with
    | none => .error .malformed
    | some d =>
      let code := code * 16 + d
      match left, lead with
      | left + 1, _ => scanText strict (.hex lead left code) cs
      | 0, none =>
        if strict && isTrailing code then .error .malformed
        else if strict && isLeading code then scanText strict (.pairSlash code) cs
        else pushChar (Char.ofNat code) (scanText strict .plain cs)
      | 0, some first =>
        if isTrailing code then pushChar (joinPair first code) (scanText strict .plain cs)
        else .error .malformed
  | .pairSlash lead, c :: cs =>
    if c = '\\' then scanText strict (.pairLetter lead) cs else .error .malformed
  | .pairLetter lead, c :: cs =>
    if c = 'u' then
      if hasFourBytes cs then scanText strict (.hex (some lead) 3 0) cs else .error .cutShort
    else .error .malformed

/-! ### Numbers -/

/-- The text of a number, taken apart. -/
structure NumberText where
  negative : Bool
  /-- the digits before the point -/
  whole : List Char
  /-- the digits after the point, none when there is no point -/
  part : List Char
  /-- whether the exponent is negative, and its digits -/
  exponent : Option (Bool × List Char)

/-- The problem with digits that are missing before `cs`: at the end of the text it is `atEnd`. -/
def missingDigits (atEnd : Fault) : List Char → Fault
  | [] => atEnd
  | _ :: _ => .malformed

/-- One or more digits. -/
def scanDigits (atEnd : Fault) (cs : List Char) : Scan (List Char) :=
  match Numeral.spanDigits cs with
  | ([], rest) => .error (missingDigits atEnd rest)
  | found => .ok found

/-- The exponent of a number, if there is one. -/
def scanExponent (atEnd : Fault) : List Char → Scan (Option (Bool × List Char))
  | c :: cs =>
    if c = 'e' ∨ c = 'E' then
      match cs with
      | '-' :: ds => (scanDigits atEnd ds).map fun (ds, rest) => (some (true, ds), rest)
      | '+' :: ds => (scanDigits atEnd ds).map fun (ds, rest) => (some (false, ds), rest)
      | ds => (scanDigits atEnd ds).map fun (ds, rest) => (some (false, ds), rest)
    else .ok (none, c :: cs)
  | [] => .ok (none, [])

/-- A number without its sign. -/
def scanUnsigned (atEnd : Fault) (negative : Bool) (cs : List Char) :
    Except Fault (NumberText × List Char) := do
  let (whole, cs) ← scanDigits atEnd cs
  if whole.head? = some '0' ∧ whole.length ≠ 1 then .error .malformed
  let (part, cs) ← match cs with
    | '.' :: ds => scanDigits atEnd ds
    | cs => .ok ([], cs)
  let (exponent, cs) ← scanExponent atEnd cs
  .ok (⟨negative, whole, part, exponent⟩, cs)

/-- **The text of a number**: an optional minus sign, digits without a leading zero, and perhaps
a fraction and an exponent.  Where the text ends although digits are due, the problem is `atEnd`. -/
def scanNumber (atEnd : Fault) : List Char → Scan NumberText
  | '-' :: cs => scanUnsigned atEnd true cs
  | cs => scanUnsigned atEnd false cs

/-- The greatest whole number that is read exactly. -/
def maxWhole : Nat := 18446744073709551615

/-- Continue a whole number by digits for as long as it stays readable exactly, and the digits
that are left over. -/
def absorb (n : Nat) : List Char → Nat × List Char
  | [] => (n, [])
  | c :: cs =>
    let m := n * 10 + Numeral.digitValue c
    if maxWhole < m then (n, c :: cs) else absorb m cs

/-- The number `n * 10 ^ e`, scaled in steps within the format; too large a number is malformed. -/
def scaled (n : Nat) (e : Int) : Except Fault Binary64 :=
  let x := Binary64.ofNat n
  if n = 0 then .ok (Binary64.zero false)
  else if 308 < e then .error .malformed
  else if 0 ≤ e then
    match x.scaleTen e with
    | .infinite _ => .error .malformed
    | y => .ok y
  else if -308 ≤ e then .ok (x.scaleTen e)
  else if -616 ≤ e then .ok ((x.scaleTen (-308)).scaleTen (e + 308))
  else .ok (Binary64.zero false)

namespace NumberText

/-- The exponent in force, as a number; one of more than 31 bits stands apart as `none`. -/
def power? (t : NumberText) : Option Int :=
  match t.exponent with
  | none => some 0
  | some (negative, ds) =>
    let n := Numeral.value ds
    if 2147483648 ≤ n then none else some (if negative then -(n : Int) else n)

/-- **The value of a number.**  Without fraction and exponent it is an integer where 64 bits hold
it, unsigned or, after a minus sign, signed; all else is a floating-point number of the leading
digits that fit into 64 bits.  Minus zero is a floating-point number. -/
def toValue (t : NumberText) : Except Fault Value :=
  let sign (x : Binary64) : Value := .float (if t.negative then x.negate else x)
  let (n, surplus) := absorb 0 t.whole
  if t.part = [] ∧ t.exponent = none ∧ surplus = [] then
    if ¬ t.negative then .ok (.int n)
    else if n ≠ 0 ∧ n ≤ 9223372036854775808 then .ok (.int (-(n : Int)))
    else .ok (sign (Binary64.ofNat n))
  else
    let (n, under) := absorb n t.part
    let shift : Int := (surplus.length : Int) - ((t.part.length : Int) - under.length)
    match t.power? with
    | some e => (scaled n (shift + e)).map sign
    | none =>
      if n ≠ 0 ∧ t.exponent.any (fun e => !e.1) then .error .malformed
      else .ok (sign (Binary64.zero false))

end NumberText

/-- The value of the number at the front of a text. -/
def readNumber (cs : List Char) : Except Fault (Value × List Char) := do
  let (t, rest) ← scanNumber .cutShort cs
  let v ← t.toValue
  .ok (v, rest)

/-- Whether a character begins a number. -/
def startsNumber (c : Char) : Bool :=
  c = '-' || Numeral.isDigit c

end FeatureLock.Json
