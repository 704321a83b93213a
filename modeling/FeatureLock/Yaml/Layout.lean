import FeatureLock.Yaml.Cursor
import FeatureLock.Yaml.Token

/-!
# Blocks, brackets and pending keys

The tokens of a YAML text depend on what is open where they stand: the blocks that
indentation holds open, the brackets, and the nodes that become keys if a colon
follows.  Blocks begin and end without a character of their own, and a key is only
known as one behind it, so tokens are also put in front of others.

## Main Definitions

- `Level`, `KeyMark`: an open block, and a node that may become a key
- `Layout`: a place in a text, the tokens up to it and what is open there
- `Layout.openBlock`, `Layout.closeBlocks`: begin and end blocks by indentation
- `Layout.markKey`, `Layout.settleKey?`: remember a node that may become a key, and
  give it up
- `Layout.finish`: the tokens at the end of a text

## Design Notes

A block whose content has not begun yet counts one column further in, by a level
that opens no block.

Whether a value begins a mapping of its own is known of the last value only, so that
such a mapping within another one is not closed twice.
-/

namespace FeatureLock.Yaml

/-- An indentation that is in force. -/
structure Level where
  /-- the indentation around it -/
  outer : Int
  /-- whether a block was begun for it -/
  block : Bool
  deriving DecidableEq

/-- A node that may become a key. -/
structure KeyMark where
  /-- whether a colon would still make it a key -/
  possible : Bool
  /-- whether it has to become a key -/
  required : Bool
  /-- how many tokens come before it -/
  number : Nat
  /-- where it stands in the text -/
  index : Nat
  line : Nat
  column : Nat
  deriving DecidableEq

/-- A node that cannot become a key. -/
def KeyMark.none : KeyMark := ⟨false, false, 0, 0, 0, 0⟩

/-- Whether a node has to become a key and still may. -/
def KeyMark.isDue (k : KeyMark) : Bool :=
  k.possible && k.required

/-- A place in a text, with the tokens up to it. -/
structure Layout where
  cursor : Cursor
  tokens : Array Token
  /-- whether a node here may become a key without a mark of its own -/
  keyAllowed : Bool
  /-- the last node that may become a key, in each open bracket and around them all, innermost
  first -/
  keys : List KeyMark
  /-- the indentation in force; below zero outside all blocks -/
  indent : Int
  /-- the indentations in force, innermost first -/
  levels : List Level
  /-- how many brackets are open -/
  flow : Nat
  /-- the place behind a node in quotes or brackets, where a colon needs no white space after it -/
  adjacent : Nat
  /-- whether entries belong to a mapping in braces, or to one with a mark of its own -/
  inMapping : Bool
  /-- whether the last value in brackets began a mapping of its own, which is not closed yet -/
  inPair : Bool

namespace Layout

/-- The beginning of a text. -/
def start (s : String) : Layout where
  cursor := .start s
  tokens := #[]
  keyAllowed := true
  keys := [.none]
  indent := -1
  levels := []
  flow := 0
  adjacent := 0
  inMapping := false
  inPair := false

/-! ### Tokens -/

/-- One more token. -/
def push (l : Layout) (t : Token) : Layout :=
  { l with tokens := l.tokens.push t }

/-- A token in front of those from a number on, or behind all of them. -/
def insert (l : Layout) (number : Option Nat) (t : Token) : Layout :=
  match number with
  | some n => { l with tokens := l.tokens.insertIdxIfInBounds n t }
  | none => l.push t

/-- Past characters that end the margin of a line. -/
def pass (l : Layout) (n : Nat) : Layout :=
  { l with cursor := l.cursor.pass n }

/-- Past the white space and the comment that a line may end in. -/
def toLineEnd (l : Layout) (tabs : Bool) : Option Layout := do
  let (_, c) ← l.cursor.toLineEnd tabs
  some { l with cursor := c }

/-- Say whether a node may now become a key without a mark of its own. -/
def allowKey (l : Layout) (allowed : Bool) : Layout :=
  { l with keyAllowed := allowed }

/-! ### Indentation -/

/-- Whether the innermost level began a block. -/
def inBlock (l : Layout) : Bool :=
  l.levels.head?.any Level.block

/-- **End the blocks that are indented deeper** than a column.  Brackets hold all blocks open. -/
def closeBlocks (l : Layout) (column : Int) : Layout :=
  if 0 < l.flow then l else go l.levels l
where
  /-- End the given levels as far as they are deeper. -/
  go : List Level → Layout → Layout
    | [], l => l
    | level :: levels, l =>
      if column < l.indent then
        let l := { l with indent := level.outer, levels := levels }
        go levels (if level.block then l.push .blockEnd else l)
      else l

/-- Drop the levels that began no block, down to the innermost block. -/
def dropLevels (l : Layout) : Layout :=
  go l.levels l
where
  /-- Drop the given levels as far as they began no block. -/
  go : List Level → Layout → Layout
    | [], l => l
    | level :: levels, l =>
      if level.block then l
      else go levels { l with indent := level.outer, levels := levels }

/-- **Begin a block at a column**, if it is indented deeper than what is open.  Its token is put in
front of those from a number on. -/
def openBlock (l : Layout) (column : Int) (number : Option Nat) (t : Token) : Layout :=
  if 0 < l.flow then l
  else
    let l := match l.levels with
      | level :: levels =>
        if !level.block ∧ l.indent ≤ column then
          { l with indent := level.outer, levels := levels }
        else l
      | [] => l
    if l.indent < column then
      { l with indent := column, levels := ⟨l.indent, true⟩ :: l.levels }.insert number t
    else l

/-- Count what comes next one column further in. -/
def deepen (l : Layout) : Layout :=
  if l.flow = 0 ∧ l.inBlock then
    { l with indent := l.indent + 1, levels := ⟨l.indent, false⟩ :: l.levels }
  else l

/-! ### Pending keys -/

/-- Change the mark of the innermost bracket. -/
def setKey (l : Layout) (k : KeyMark) : Layout :=
  { l with keys := k :: l.keys.drop 1 }

/-- The mark of the innermost bracket. -/
def key (l : Layout) : KeyMark :=
  l.keys.head?.getD .none

/-- **Give up that the last node becomes a key**, which fails if it has to. -/
def settleKey? (l : Layout) : Option Layout :=
  if l.key.isDue then none else some (l.setKey { l.key with possible := false })

/-- **Remember that the node here may become a key.**  It has to if it stands where its block is
indented. -/
def markKey (l : Layout) : Option Layout :=
  if !l.keyAllowed then some l
  else do
    let c := l.cursor
    let required := l.flow = 0 && l.indent = c.column && l.inBlock
    let l ← l.settleKey?
    some (l.setKey ⟨true, required, l.tokens.size, c.index, c.line, c.column⟩)

/-- Give up the nodes that are too far back to become keys: outside of brackets, a key is on one
line and not much longer than a thousand characters. -/
def expireKeys (l : Layout) : Option Layout := do
  if 0 < l.flow then some l
  else
    let isStale (k : KeyMark) : Bool :=
      k.possible && (k.line < l.cursor.line || k.index + 1024 < l.cursor.index)
    if l.keys.any fun k => isStale k && k.required then none
    else
      some { l with keys := l.keys.map fun k => { k with possible := k.possible && !isStale k } }

/-! ### Brackets -/

/-- End the mapping that the last value began, if it did. -/
def closePair (l : Layout) : Layout :=
  if l.inPair then { l with inMapping := false, inPair := false }.push .flowMappingEnd else l

/-- One more open bracket. -/
def openBracket (l : Layout) (mapping : Bool) : Option Layout :=
  if 255 ≤ l.flow then none
  else
    some { l with
      flow := l.flow + 1, keys := .none :: l.keys, inMapping := l.inMapping || mapping }

/-- One open bracket less. -/
def closeBracket (l : Layout) : Layout :=
  let l := if l.flow = 0 then l else { l with flow := l.flow - 1, keys := l.keys.drop 1 }
  (l.allowKey false).closePair

/-! ### The end -/

/-- End everything before a mark at the beginning of a line. -/
def interrupt (l : Layout) : Option Layout := do
  let l ← (l.closeBlocks (-1)).settleKey?
  some (l.allowKey false)

/-- **The tokens at the end of a text**, unless a node still has to become a key. -/
def finish (l : Layout) : Option (Array Token) :=
  if l.keys.any KeyMark.isDue then none else some (l.closeBlocks (-1)).tokens

end Layout

end FeatureLock.Yaml
