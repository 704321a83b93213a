import FeatureLock.Yaml.BlockScalar
import FeatureLock.Yaml.Layout
import FeatureLock.Yaml.Property
import FeatureLock.Yaml.Scalar

/-!
# The tokens that a text writes

## Main Definitions

- `Layout.toNext`: past the white space, line breaks and comments before a token
- `Layout.next`: the token that begins with a character
- `Token.ofText?`: all tokens of a text

## Design Notes

Each token passes at least one character, so as many steps as there are characters
suffice.
-/

namespace FeatureLock.Yaml

namespace Layout

/-! ### Between tokens -/

/-- **Past the white space, line breaks and comments before a token.**  A tab that stands where a
block is to be indented may have nothing behind it on its line. -/
def toNext : Nat → Layout → Option Layout
  | 0, _ => none
  | n + 1, l =>
    let c := l.cursor
    match c.rest with
    | [] => some l
    | d :: _ =>
      if d = '\t' ∧ l.levels ≠ [] ∧ c.inMargin ∧ (c.column : Int) < l.indent then do
        let l ← l.toLineEnd true
        if l.cursor.atLineEnd then toNext n l else none
      else if isGap d then toNext n { l with cursor := c.passGaps 1 }
      else if isBreak d then
        toNext n { l with cursor := c.passBreak, keyAllowed := l.keyAllowed || l.flow == 0 }
      else if d = '#' then toNext n { l with cursor := c.passComment }
      else some l

/-- Past spaces, line breaks and comments. -/
def passSpace : Nat → Cursor → Cursor
  | 0, c => c
  | n + 1, c =>
    match c.rest with
    | [] => c
    | d :: _ =>
      if d = ' ' then passSpace n (c.passGaps 1)
      else if isBreak d then passSpace n c.passBreak
      else if d = '#' then passSpace n c.passComment
      else c

/-! ### Indicators of blocks -/

/-- The dash before an item of a block list. -/
def item (l : Layout) : Option Layout := do
  if 0 < l.flow ∨ !l.keyAllowed then none
  let l := (l.pass 1).openBlock l.cursor.column none .blockList
  let (gaps, c) ← l.cursor.toLineEnd true
  if '\t' ∈ gaps ∧ c.rest.head? = some '-' ∧ c.blankAt 1 then none
  let l := { l with cursor := c }
  let l := if c.rest.head?.any fun d => isBreak d || isFlow d then l.deepen else l
  let l ← l.settleKey?
  some ((l.allowKey true).push .item)

/-- The mark of a key, which a space or a line break has to follow. -/
def keyMark (l : Layout) : Option Layout := do
  let l ←
    if 0 < l.flow then some { l with inMapping := true }
    else if l.keyAllowed then some (l.openBlock l.cursor.column none .blockMapping)
    else none
  let l ← l.settleKey?
  let l := (l.allowKey (l.flow = 0)).pass 1
  let c := passSpace l.cursor.budget l.cursor
  if c.index = l.cursor.index ∨ c.rest.head? = some '\t' then none
  some ({ l with cursor := c }.push .key)

/-- Past the colon of a value.  A tab behind it is no white space before a word. -/
def passColon (l : Layout) : Option Layout := do
  let l := l.pass 1
  if l.cursor.rest.head? = some '\t' then
    let (gaps, c) ← l.cursor.toLineEnd true
    if ' ' ∉ gaps ∧ c.rest.head?.any isWord then none else some { l with cursor := c }
  else some l

/-- **The colon before a value.**  A node that was to become a key does; without one, the key was
marked or is left out.  In brackets, but not in a mapping, it begins a mapping of its own. -/
def value (l : Layout) : Option Layout := do
  let key := l.key
  let line := l.cursor.line
  let column := l.cursor.column
  let isPair : Bool := decide (0 < l.flow) && !l.inMapping
  let l ← { l with inPair := isPair }.passColon
  if key.possible then
    if isPair ∧ key.line < line then none
    let l := l.insert (some key.number) .key
    let l := if isPair then l.insert (some key.number) .flowMapping else l
    let l := (l.openBlock key.column (some key.number) .blockMapping).deepen
    some (((l.setKey { key with possible := false }).allowKey false).push .value)
  else
    let l := if isPair then l.push .flowMapping else l
    if l.flow = 0 then
      if !l.keyAllowed then none
      some (((l.openBlock column none .blockMapping).deepen.allowKey true).push .value)
    else some ((l.allowKey false).push .value)

/-! ### Brackets -/

/-- A bracket that opens. -/
def bracket (l : Layout) (mapping : Bool) : Option Layout := do
  let l ← l.markKey
  let l ← l.deepen.openBracket mapping
  let l ← ((l.allowKey true).pass 1).toLineEnd true
  some (l.push (if mapping then .flowMapping else .flowList))

/-- A bracket that closes. -/
def bracketEnd (l : Layout) (mapping : Bool) : Option Layout := do
  let l ← l.settleKey?
  let l ← (l.closeBracket.pass 1).toLineEnd true
  let l := if 0 < l.flow then { l with adjacent := l.cursor.index } else l
  some (l.push (if mapping then .flowMappingEnd else .flowListEnd))

/-- The comma between items or entries. -/
def comma (l : Layout) : Option Layout := do
  let l ← l.settleKey?
  let l ← ((l.allowKey true).closePair.pass 1).toLineEnd true
  some (l.push .comma)

/-! ### Nodes -/

/-- A name, a reference or a tag. -/
def property (l : Layout) (read : Cursor → Option (Token × Cursor)) : Option Layout := do
  let l ← l.markKey
  let (t, c) ← read l.cursor
  some ({ l.allowKey false with cursor := c }.push t)

/-- A name, or a reference to one. -/
def name (l : Layout) (token : String → Token) : Option Layout :=
  l.property fun c => do
    let (s, c) ← readName? (c.pass 1)
    some (token s, c)

/-- A scalar in quotes. -/
def quoted (l : Layout) (quote : Char) : Option Layout := do
  let l ← l.markKey
  let l := l.allowKey false
  let (s, c) ← readQuoted? quote l.indent (0 < l.flow) l.cursor
  let l ← toNext c.budget { l with cursor := c }
  some ({ l with adjacent := l.cursor.index }.push (.scalar false s))

/-- A block scalar. -/
def blockScalar (l : Layout) (literal : Bool) : Option Layout := do
  let l ← l.markKey
  let l := (l.allowKey true).dropLevels
  let (s, c) ← readBlock? literal l.indent l.cursor
  some ({ l with cursor := c }.push (.scalar false s))

/-- A scalar without quotes.  If it ends behind a line break, a key may follow. -/
def plain (l : Layout) : Option Layout := do
  let l ← l.markKey
  let l := l.dropLevels
  let (s, c) ← readPlain? l.indent (0 < l.flow) l.cursor
  some ({ l.allowKey c.inMargin with cursor := c }.push (.scalar true s))

/-! ### Documents -/

/-- A directive. -/
def directive (l : Layout) : Option Layout := do
  let l ← l.interrupt
  let (t, c) ← readDirective? (l.cursor.pass 1)
  some ({ l with cursor := c }.push t)

/-- The mark that begins a document. -/
def documentStart (l : Layout) : Option Layout := do
  let l ← l.interrupt
  some ((l.pass 3).push .documentStart)

/-- The mark that ends a document, with nothing but a comment behind it on its line. -/
def documentEnd (l : Layout) : Option Layout := do
  let l ← l.interrupt
  let l ← ((l.pass 3).push .documentEnd).toLineEnd true
  if l.cursor.atLineEnd then some l else none

/-! ### All tokens -/

/-- A colon that nothing blank follows: in brackets it may stand before a value, else it belongs to
a scalar. -/
def tightColon (l : Layout) : Option Layout :=
  let mayFollow := l.cursor.index == l.adjacent || l.cursor.rest[1]?.any isFlow
  if 0 < l.flow ∧ mayFollow then l.value else l.plain

/-- **The token that begins with a character.** -/
def next (l : Layout) (d : Char) : Option Layout :=
  let c := l.cursor
  let spaced := c.blankAt 1
  if c.column = 0 ∧ d = '%' then l.directive
  else if c.atMark "---" then l.documentStart
  else if c.atMark "..." then l.documentEnd
  else if (c.column : Int) < l.indent then none
  else match d with
    | '[' => l.bracket false
    | '{' => l.bracket true
    | ']' => l.bracketEnd false
    | '}' => l.bracketEnd true
    | ',' => l.comma
    | '-' => if spaced then l.item else l.plain
    | '?' => if spaced then l.keyMark else l.plain
    | ':' => if spaced then l.value else l.tightColon
    | '*' => l.name .alias
    | '&' => l.name .anchor
    | '!' => l.property (readTag? (0 < l.flow))
    | '|' => if l.flow = 0 then l.blockScalar true else l.plain
    | '>' => if l.flow = 0 then l.blockScalar false else l.plain
    | '\'' => l.quoted '\''
    | '"' => l.quoted '"'
    | '%' => none
    | '@' => none
    | '\x60' => none
    | _ => l.plain

/-- The tokens from a place on, with those before it. -/
def readAll : Nat → Layout → Option (Array Token)
  | 0, _ => none
  | n + 1, l => do
    let l ← l.toNext l.cursor.budget
    let l ← l.expireKeys
    let l := l.closeBlocks l.cursor.column
    match l.cursor.rest with
    | [] => l.finish
    | d :: _ => readAll n (← l.next d)

end Layout

/-- **All tokens of a text**, if they can be told apart. -/
def Token.ofText? (s : String) : Option (List Token) :=
  let l := Layout.start s
  (l.readAll l.cursor.budget).map (·.toList)

end FeatureLock.Yaml
