import FeatureLock.Yaml.Cursor

/-!
# Block scalars

A block scalar is text on the indented lines that follow its header.  It keeps its
line breaks, or folds them; the header also says what becomes of the line breaks
at the end.

## Main Definitions

- `Chomping`: what becomes of the line breaks at the end
- `readBlock?`: a block scalar
-/

namespace FeatureLock.Yaml

/-- What becomes of the line breaks at the end of a block scalar: one is kept, none or all. -/
inductive Chomping where
  | clip
  | strip
  | keep
  deriving DecidableEq

/-- Line feeds. -/
def lineFeeds (n : Nat) : List Char :=
  List.replicate n '\n'

/-! ### The header -/

/-- The chomping that a character asks for. -/
def chomping? : Char → Option Chomping
  | '+' => some .keep
  | '-' => some .strip
  | _ => none

/-- The header of a block scalar, from behind its indicator: its chomping, and by how much its lines
are indented, or zero if their first line decides. -/
def readHeader? (c : Cursor) : Option (Chomping × Nat × Cursor) :=
  let increment (c : Cursor) : Option (Nat × Cursor) :=
    match c.rest.head?.bind (digitIn? 10) with
    | some 0 => none
    | some n => some (n, c.pass 1)
    | none => some (0, c)
  match c.rest.head?.bind chomping? with
  | some chomping => do
    let (n, c) ← increment (c.pass 1)
    some (chomping, n, c)
  | none => do
    let (n, c) ← increment c
    if n = 0 then some (.clip, n, c)
    else match c.rest.head?.bind chomping? with
      | some chomping => some (chomping, n, c.pass 1)
      | none => some (.clip, n, c)

/-! ### Indentation -/

/-- Past empty lines and the indentation of the next line, up to a given one; the number of empty
lines is added to those before. -/
def passIndent (indent : Nat) : Nat → Nat → Cursor → Nat × Cursor
  | 0, empty, c => (empty, c)
  | n + 1, empty, c =>
    let spaces := (c.rest.take (indent - c.column)).takeWhile (· = ' ')
    let c := c.passGaps spaces.length
    if c.rest.head?.any isBreak then passIndent indent n (empty + 1) c.passBreak else (empty, c)

/-- Past empty lines and the indentation of the first line with content; also the deepest
indentation of these lines. -/
def passFirstIndent : Nat → Nat → Nat → Cursor → Nat × Nat × Cursor
  | 0, deepest, empty, c => (deepest, empty, c)
  | n + 1, deepest, empty, c =>
    let c := c.passGaps (c.rest.takeWhile (· = ' ')).length
    let deepest := max deepest c.column
    if c.rest.head?.any isBreak then passFirstIndent n deepest (empty + 1) c.passBreak
    else (deepest, empty, c)

/-! ### The lines -/

/-- The text of the lines so far, and what comes before the next one. -/
structure Lines where
  text : List Char
  /-- whether a line ended just before -/
  ended : Bool
  /-- how many empty lines came after it -/
  empty : Nat
  /-- whether the last line began with white space -/
  indented : Bool

/-- The text with the line breaks before a line: kept, or folded between two lines of which neither
begins with white space. -/
def Lines.join (l : Lines) (literal indented : Bool) : List Char :=
  if !literal && l.ended && !l.indented && !indented then
    l.text ++ if l.empty = 0 then [' '] else lineFeeds l.empty
  else l.text ++ lineFeeds (if l.ended then 1 else 0) ++ lineFeeds l.empty

/-- The lines at an indentation. -/
def readLines (literal : Bool) (indent : Nat) : Nat → Lines → Cursor → Lines × Cursor
  | 0, l, c => (l, c)
  | n + 1, l, c =>
    if c.column ≠ indent ∨ c.rest = [] ∨ (indent = 0 ∧ c.atMark "...") then (l, c)
    else
      let indented := c.rest.head?.any isGap
      let line := c.rest.takeWhile fun d => !isBreak d
      let text := l.join literal indented ++ line
      let c := c.passGaps line.length
      if c.rest = [] then (⟨text, false, 0, indented⟩, c)
      else
        let (empty, c) := passIndent indent c.budget 0 c.passBreak
        readLines literal indent n ⟨text, true, empty, indented⟩ c

/-- The text of all lines, with the line breaks at the end that the chomping asks for.  A last line
that the text ends in is ended, too. -/
def Lines.chomp (l : Lines) (chomping : Chomping) (indent : Nat) (c : Cursor) : List Char :=
  let clipped := l.text ++ lineFeeds (if l.ended then 1 else 0) ++
    if c.rest = [] ∧ max indent 1 ≤ c.column then ['\n'] else []
  match chomping with
  | .strip => l.text
  | .clip => clipped
  | .keep => clipped ++ lineFeeds l.empty

/-- The text of a block scalar without any content: at most the line breaks after its header. -/
def emptyBlock (chomping : Chomping) (headerEnded sameLine : Bool) (empty : Nat) : List Char :=
  if chomping = .strip ∨ sameLine then []
  else if chomping = .keep ∧ empty ≠ 0 then lineFeeds empty
  else lineFeeds (if headerEnded then 1 else 0)

/-- **A block scalar**, from its indicator on, within a block of a given indentation. -/
def readBlock? (literal : Bool) (outer : Int) (c : Cursor) : Option (String × Cursor) := do
  let line := c.line
  let (chomping, increment, c) ← readHeader? (c.pass 1)
  let (_, c) ← c.toLineEnd true
  if !c.atLineEnd then none
  let headerEnded := !c.rest.isEmpty
  let c := if headerEnded then c.passBreak else c
  if c.rest.head? = some '\t' then none
  let (indent, empty, c) :=
    if increment = 0 then
      let (deepest, empty, c) := passFirstIndent c.budget 0 0 c
      let indent := max deepest (outer + 1).toNat
      (if 0 < outer then max indent 1 else indent, empty, c)
    else
      let indent := if 0 ≤ outer then (outer + increment).toNat else increment
      let (empty, c) := passIndent indent c.budget 0 c
      (indent, empty, c)
  if c.rest.isEmpty then
    some (String.ofList (emptyBlock chomping headerEnded (c.line == line) empty), c)
  else if c.column < indent ∧ outer < c.column then none
  else
    let (l, c) := readLines literal indent c.budget ⟨[], false, empty, false⟩ c
    some (String.ofList (l.chomp chomping indent c), c)

end FeatureLock.Yaml
