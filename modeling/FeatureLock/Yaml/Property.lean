import FeatureLock.Yaml.Cursor
import FeatureLock.Yaml.Token

/-!
# Names, tags and directives

A node may be given a name, by which later nodes refer to it, and a tag, which
says what its text means.  Directives in front of a document say what the handles
of its tags stand for.

## Main Definitions

- `readName?`: the name of a node
- `readTag?`: a tag
- `readDirective?`: a directive
-/

namespace FeatureLock.Yaml

/-! ### Names -/

/-- **The name of a node**, from behind its indicator, and the place behind it. -/
def readName? (c : Cursor) : Option (String × Cursor) :=
  let (cs, c) := c.passWhile fun d => !(isGap d || isBreak d || isFlow d || d = '\uFEFF')
  if cs = [] then none else some (String.ofList cs, c)

/-! ### Characters of tags -/

/-- The characters that the front of a tag may hold. -/
def isUri (c : Char) : Bool :=
  isWord c || c ∈ "#;/?:@&=+$,.!~*'()[]%".toList

/-- The characters that a tag may hold behind its handle. -/
def isTagChar (c : Char) : Bool :=
  isUri c && !isFlow c && c ≠ '!'

/-- The byte of an escape. -/
def escapedByte? : List Char → Option Nat
  | '%' :: a :: b :: _ => do
    let high ← digitIn? 16 a
    let low ← digitIn? 16 b
    some (high * 16 + low)
  | _ => none

/-- The character of one escape or of two, and their length.  Two escapes stand for the character
whose number has their two bytes; no character has a longer one. -/
def readUriEscape? (cs : List Char) : Option (Char × Nat) := do
  let lead ← escapedByte? cs
  if lead < 0x80 then some (Char.ofNat lead, 3)
  else
    let trail ← escapedByte? (cs.drop 3)
    let code := lead * 256 + trail
    if 0xC0 ≤ lead ∧ lead < 0xE0 ∧ 0x80 ≤ trail ∧ trail < 0xC0 ∧ code.isValidChar then
      some (Char.ofNat code, 6)
    else none

/-- The characters for which a condition holds, with their escapes resolved, and the place behind
them. -/
def passUri? (p : Char → Bool) : Nat → Cursor → Option (List Char × Cursor)
  | 0, _ => none
  | n + 1, c =>
    match c.rest with
    | [] => some ([], c)
    | d :: _ =>
      if !p d then some ([], c)
      else do
        let (e, length) ← if d = '%' then readUriEscape? c.rest else some (d, 1)
        let (es, c) ← passUri? p n (c.pass length)
        some (e :: es, c)

/-! ### Tags -/

/-- A handle: an exclamation mark, a word and perhaps another mark, which a directive requires
unless the handle is a single mark. -/
def readHandle? (directive : Bool) (c : Cursor) : Option (String × Cursor) :=
  match c.rest with
  | '!' :: _ =>
    let (word, c) := (c.pass 1).passWhile isWord
    match c.rest with
    | '!' :: _ => some (String.ofList ('!' :: word ++ ['!']), c.pass 1)
    | _ => if directive ∧ word ≠ [] then none else some (String.ofList ('!' :: word), c)
  | _ => none

/-- Whether a handle is closed by a mark of its own. -/
def isClosedHandle (handle : String) : Bool :=
  2 ≤ handle.length && handle.toList.getLast? == some '!'

/-- A tag in brackets, which has no handle. -/
def readVerbatim? (c : Cursor) : Option (Token × Cursor) := do
  let (cs, c) ← passUri? isUri c.budget (c.pass 2)
  if c.rest.head? = some '>' then some (.tag "" (String.ofList cs), c.pass 1) else none

/-- A tag with a handle.  What stands between a single mark and the end belongs to the tag itself,
and the single mark alone is a tag without a handle. -/
def readShorthand? (c : Cursor) : Option (Token × Cursor) := do
  let (handle, c) ← readHandle? false c
  let (cs, c) ← passUri? isTagChar c.budget c
  if isClosedHandle handle then
    if cs = [] then none else some (.tag handle (String.ofList cs), c)
  else
    let suffix := handle.toList.drop 1 ++ cs
    some (if suffix = [] then .tag "" "!" else .tag "!" (String.ofList suffix), c)

/-- **A tag**, from its mark on, and the place behind it, where white space follows or, in flow
notation, the end of an item. -/
def readTag? (inFlow : Bool) (c : Cursor) : Option (Token × Cursor) := do
  let (t, c) ← if c.rest[1]? = some '<' then readVerbatim? c else readShorthand? c
  if c.blankAt 0 || (inFlow && c.rest.head?.any isFlow) then some (t, c) else none

/-! ### Directives -/

/-- Past spaces and tabs. -/
def passBlank (c : Cursor) : Cursor :=
  c.passGaps (c.rest.takeWhile isGap).length

/-- Past a number of at most nine digits. -/
def passNumber? (c : Cursor) : Option Cursor :=
  let (ds, c) := c.passWhile fun d => '0' ≤ d && d ≤ '9'
  if ds = [] ∨ 9 < ds.length then none else some c

/-- The version of the notation. -/
def readVersion? (c : Cursor) : Option (Token × Cursor) := do
  let c ← passNumber? (passBlank c)
  if c.rest.head? = some '.' then some (.version, ← passNumber? (c.pass 1)) else none

/-- What a handle stands for. -/
def readTagHandle? (c : Cursor) : Option (Token × Cursor) := do
  let (handle, c) ← readHandle? true (passBlank c)
  let c := passBlank c
  if !(c.rest.head?.any fun d => isTagChar d || d = '!') then none
  let (cs, c) ← passUri? isUri c.budget c
  if c.blankAt 0 then some (.tagHandle handle (String.ofList cs), c) else none

/-- **A directive**, from behind its indicator to the end of its line.  An unknown one is about no
handle. -/
def readDirective? (c : Cursor) : Option (Token × Cursor) := do
  let (name, c) := c.passWhile isWord
  if name = [] ∨ !c.blankAt 0 then none
  let (t, c) ←
    if name = "YAML".toList then readVersion? c
    else if name = "TAG".toList then readTagHandle? c
    else some (.tagHandle "" "", c.passComment)
  let (_, c) ← c.toLineEnd true
  if c.rest = [] then some (t, c)
  else if c.atLineEnd then some (t, c.passBreak)
  else none

end FeatureLock.Yaml
