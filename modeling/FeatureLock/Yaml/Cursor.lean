import FeatureLock.Number.Numeral

/-!
# A place in a YAML text

Indentation, line breaks and white space carry meaning in a YAML text, so a
reader has to know where in the text it stands, and whether it has passed
anything but white space on the current line.

## Main Definitions

- `isGap`, `isBreak`, `isFlow`, `isWord`: the kinds of characters
- `Cursor`: a place in a text, with `pass`, `passGaps` and `passBreak`
- `Cursor.toLineEnd`: past the white space and the comment that a line may end in

## Design Notes

A NUL ends a text wherever it stands, so a cursor is never given what follows it.
-/

namespace FeatureLock.Yaml

/-! ### Characters -/

/-- Spaces and tabs. -/
def isGap (c : Char) : Bool :=
  c = ' ' || c = '\t'

/-- Line feeds and carriage returns. -/
def isBreak (c : Char) : Bool :=
  c = '\n' || c = '\r'

/-- The characters that structure flow notation. -/
def isFlow (c : Char) : Bool :=
  c ∈ [',', '[', ']', '{', '}']

/-- The characters of the names of directives and tag handles. -/
def isWord (c : Char) : Bool :=
  ('0' ≤ c && c ≤ '9') || ('a' ≤ c && c ≤ 'z') || ('A' ≤ c && c ≤ 'Z') || c = '_' || c = '-'

/-- The value of a digit in a base of at most sixteen. -/
def digitIn? (base : Nat) (c : Char) : Option Nat :=
  let n := if '0' ≤ c ∧ c ≤ '9' then c.toNat - 48
    else if 'a' ≤ c ∧ c ≤ 'f' then c.toNat - 87
    else if 'A' ≤ c ∧ c ≤ 'F' then c.toNat - 55
    else base
  if n < base then some n else none

/-! ### Cursors -/

/-- A place in a text. -/
structure Cursor where
  /-- the characters from here on -/
  rest : List Char
  /-- how many characters come before -/
  index : Nat
  /-- the number of the line, from one on -/
  line : Nat
  /-- the number of the column, from zero on -/
  column : Nat
  /-- whether nothing but white space comes before on the line -/
  inMargin : Bool

namespace Cursor

/-- The beginning of a text. -/
def start (s : String) : Cursor where
  rest := s.toList.takeWhile (· != '\x00')
  index := 0
  line := 1
  column := 0
  inMargin := true

/-- Steps enough to read the rest of the text, where each step passes a character. -/
def budget (c : Cursor) : Nat :=
  c.rest.length + 1

/-- Past spaces or tabs, which leave the margin as it is. -/
def passGaps (c : Cursor) (n : Nat) : Cursor :=
  { c with rest := c.rest.drop n, index := c.index + n, column := c.column + n }

/-- Past characters of a line that end its margin. -/
def pass (c : Cursor) (n : Nat) : Cursor :=
  { c.passGaps n with inMargin := c.inMargin && n == 0 }

/-- Past a line break, which is a line feed, a carriage return or one of each. -/
def passBreak (c : Cursor) : Cursor :=
  let n := match c.rest with
    | '\r' :: '\n' :: _ => 2
    | _ => 1
  { rest := c.rest.drop n, index := c.index + n, line := c.line + 1, column := 0, inMargin := true }

/-- The characters for which a condition holds, and the place behind them. -/
def passWhile (c : Cursor) (p : Char → Bool) : List Char × Cursor :=
  let cs := c.rest.takeWhile p
  (cs, c.pass cs.length)

/-- Whether white space or the end comes `n` characters from here. -/
def blankAt (c : Cursor) (n : Nat) : Bool :=
  c.rest[n]?.all fun d => isGap d || isBreak d

/-- Whether a line break or the end comes here. -/
def atLineEnd (c : Cursor) : Bool :=
  c.rest.head?.all isBreak

/-- Whether a word that marks the border of a document stands here. -/
def atMark (c : Cursor) (word : String) : Bool :=
  c.column == 0 && word.toList.isPrefixOf c.rest && c.blankAt 3

/-- Whether a document begins or ends here. -/
def atDocumentMark (c : Cursor) : Bool :=
  c.atMark "---" || c.atMark "..."

/-- Past the comment at which a cursor stands. -/
def passComment (c : Cursor) : Cursor :=
  (c.passWhile fun d => !isBreak d).2

/-- **Past the white space and the comment that a line may end in.**  Answers the white space; a
comment without white space before it is refused. -/
def toLineEnd (c : Cursor) (tabs : Bool) : Option (List Char × Cursor) :=
  let gaps := c.rest.takeWhile fun d => d = ' ' || (tabs && d = '\t')
  let c := c.passGaps gaps.length
  match c.rest with
  | '#' :: _ => if gaps = [] then none else some (gaps, c.passComment)
  | _ => some (gaps, c)

end Cursor

end FeatureLock.Yaml
