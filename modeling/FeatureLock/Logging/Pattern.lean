import FeatureLock.Json.Token
import FeatureLock.Text.Alphanumeric
import FeatureLock.Text.Blank

/-!
# Patterns

The value of a field is described by a regular expression.  Only its form matters
here, for no line of the log has a value to compare with it.

## Main Definitions

- `Style`: how the characters of a pattern are to be understood
- `depthOf`: how deep the parts of a pattern are nested
- `readEscape?`, `readClass?`, `readGroup?`: the parts of a pattern
- `isPattern`: whether a text is a pattern

## Design Notes

Nothing is known about the characters of other scripts: a class of letters, of digits
or of spaces, the border of a word and letters in any case are refused unless a
pattern is about bytes, and what could tear a character apart is refused where it is.
Repetitions that are counted need a closing brace, which ends the field itself.
-/

namespace FeatureLock.Pattern

/-- How the characters of a pattern are to be understood. -/
structure Style where
  /-- whether it is about bytes, not about characters -/
  bytes : Bool
  /-- whether letters stand for themselves in any case -/
  anyCase : Bool
  /-- whether white space and comments do not count -/
  spaced : Bool
  deriving DecidableEq

/-- Whether the case of characters would have to be known. -/
def Style.foldsCase (st : Style) : Bool :=
  st.anyCase && !st.bytes

/-- Past the white space and the comments that do not count. -/
def passSpace (st : Style) (cs : List Char) : List Char :=
  if st.spaced then go cs.length cs else cs
where
  /-- Past at most so many runs of white space or comments. -/
  go : Nat → List Char → List Char
    | 0, cs => cs
    | n + 1, c :: cs =>
      if Text.isWhite c then go n cs
      else if c = '#' then go n (cs.dropWhile (· ≠ '\n'))
      else c :: cs
    | _, [] => []

/-! ### Depth -/

/-- How deep a row of parts is nested, from their depths: a part alone is no row. -/
def depthOf : List Nat → Nat
  | [] => 0
  | [depth] => depth
  | depths => depths.foldl max 0 + 1

/-- How deep a pattern may be nested. -/
def maxDepth : Nat := 250

/-! ### Escapes -/

/-- What a part of a pattern stands for. -/
inductive Piece where
  /-- a character -/
  | literal (code : Nat)
  /-- one of several characters -/
  | choice
  /-- a place between characters -/
  | place
  deriving DecidableEq

/-- So many hexadecimal digits: the number that they write, after the digits before. -/
def readHex? (st : Style) : Nat → Nat → List Char → Option (Nat × List Char)
  | 0, code, cs => some (code, cs)
  | n + 1, code, cs => do
    let d :: cs := passSpace st cs | none
    readHex? st n (code * 16 + (← Json.hexValue? d)) cs

/-- A character by its number; a byte has to be one of a character of its own. -/
def readCode? (st : Style) (digits : Nat) (cs : List Char) : Option (Piece × List Char) := do
  let (code, cs) ← readHex? st digits 0 cs
  if code.isValidChar && !(st.bytes && digits == 2 && 0x80 ≤ code) then some (.literal code, cs)
  else none

/-- The number of the character that the letter of an escape stands for. -/
def control? : Char → Option Nat
  | 'a' => some 0x07
  | 't' => some 0x09
  | 'n' => some 0x0A
  | 'v' => some 0x0B
  | 'f' => some 0x0C
  | 'r' => some 0x0D
  | _ => none

/-- **What an escape stands for**, from behind its backslash. -/
def readEscape? (st : Style) : List Char → Option (Piece × List Char)
  | [] => none
  | c :: cs =>
    if c = 'x' then readCode? st 2 cs
    else if c = 'u' then readCode? st 4 cs
    else if c = 'U' then readCode? st 8 cs
    else if let some code := control? c then some (.literal code, cs)
    else if c ∈ ['A', 'z'] then some (.place, cs)
    else if c ∈ ['d', 's', 'w'] then if st.bytes then some (.choice, cs) else none
    else if c ∈ ['b', 'B', '<', '>'] then if st.bytes then some (.place, cs) else none
    else if c.isAlphanum || 0x7F < c.toNat then none
    else some (.literal c.toNat, cs)

/-! ### Classes -/

/-- The names of the classes of ASCII characters. -/
def classNames : List String :=
  ["alnum", "alpha", "ascii", "blank", "cntrl", "digit", "graph", "lower", "print", "punct",
    "space", "upper", "word", "xdigit"]

/-- Past a class by its name, from behind its opening bracket. -/
def passNamed? (st : Style) : List Char → Option (List Char)
  | ':' :: cs => do
    let (negated, cs) := match cs with
      | '^' :: cs => (true, cs)
      | cs => (false, cs)
    let name := cs.takeWhile (· ≠ ':')
    let ':' :: ']' :: rest := cs.drop name.length | none
    if String.ofList name ∈ classNames ∧ !(negated && st.bytes) then some rest else none
  | _ => none

/-- A class that is still open. -/
structure OpenClass where
  /-- the depth of the operands before the last operator, if there was one -/
  operands : Option Nat
  /-- the depths of the members since then -/
  members : List Nat

namespace OpenClass

/-- One more member. -/
def add (o : OpenClass) (depth : Nat) : OpenClass :=
  { o with members := depth :: o.members }

/-- The depth of what is within a class. -/
def depth (o : OpenClass) : Nat :=
  let last := depthOf o.members
  o.operands.elim last fun before => max before last + 1

/-- Go on behind an operator. -/
def operate (o : OpenClass) : OpenClass :=
  ⟨some o.depth, []⟩

end OpenClass

/-- The beginning of a class, from behind its bracket: perhaps its negation, and dashes or a closing
bracket that stand for themselves there. -/
def openClass? (st : Style) (cs : List Char) : Option (OpenClass × List Char) := do
  let c :: rest := passSpace st cs | none
  let cs ← if c ≠ '^' then some (c :: rest) else if st.bytes then none else some (passSpace st rest)
  let (dashes, cs) := dashesOf cs.length cs
  let members := List.replicate dashes 0
  match cs with
  | [] => none
  | ']' :: rest =>
    if dashes ≠ 0 then some (⟨none, members⟩, cs)
    else if passSpace st rest = [] then none
    else some (⟨none, [0]⟩, passSpace st rest)
  | _ => some (⟨none, members⟩, cs)
where
  /-- How many dashes come, and what comes behind them. -/
  dashesOf : Nat → List Char → Nat × List Char
    | n + 1, '-' :: cs =>
      let (dashes, cs) := dashesOf n (passSpace st cs)
      (dashes + 1, cs)
    | _, cs => (0, cs)

/-- A member of a class, or an end of a range of it.  Among bytes it has to be one of ASCII. -/
def readMember? (st : Style) (cs : List Char) : Option (Piece × List Char) := do
  let member ← match cs with
    | [] => none
    | '\\' :: cs => readEscape? st cs
    | c :: cs => some (.literal c.toNat, cs)
  match member with
  | (.literal code, _) => if st.bytes && 0x7F < code then none else some member
  | _ => some member

/-- Past a member of a class or a range of members. -/
def passRange? (st : Style) (cs : List Char) : Option (List Char) := do
  let (first, cs) ← readMember? st cs
  if first = .place then none
  match passSpace st cs with
  | [] => none
  | '-' :: rest =>
    let rest := passSpace st rest
    if rest.head? = some ']' ∨ rest.head? = some '-' then some (passSpace st cs)
    else
      match first, ← readMember? st rest with
      | .literal a, (.literal b, rest) => if a ≤ b then some rest else none
      | _, _ => none
  | rest => some rest

/-- The rest of a class within others, the innermost of them first: its depth, and what comes behind
the last of them. -/
def readClasses? (st : Style) :
    Nat → OpenClass → List OpenClass → List Char → Option (Nat × List Char)
  | 0, _, _, _ => none
  | n + 1, o, outer, cs =>
    match passSpace st cs with
    | [] => none
    | '[' :: rest =>
      match passNamed? st rest with
      | some rest => readClasses? st n (o.add 0) outer rest
      | none => do
        let (inner, rest) ← openClass? st rest
        readClasses? st n inner (o :: outer) rest
    | ']' :: rest =>
      match outer with
      | [] => some (o.depth + 1, rest)
      | p :: outer => readClasses? st n (p.add (o.depth + 1)) outer rest
    | '&' :: '&' :: rest => readClasses? st n o.operate outer rest
    | '-' :: '-' :: rest => readClasses? st n o.operate outer rest
    | '~' :: '~' :: rest => readClasses? st n o.operate outer rest
    | cs => do readClasses? st n (o.add 0) outer (← passRange? st cs)

/-- **A class of characters**, from behind its bracket: its depth, and what comes behind it. -/
def readClass? (st : Style) (cs : List Char) : Option (Nat × List Char) := do
  if st.foldsCase then none
  let (o, rest) ← openClass? st cs
  readClasses? st (cs.length + 1) o [] rest

/-! ### Groups -/

/-- What an opening parenthesis begins. -/
inductive Opening where
  /-- a group in a style of its own -/
  | group (inner : Style) (name : Option String)
  /-- another style from here on -/
  | change (st : Style)

/-- The name of a group, up to its closing bracket. -/
def readName? (cs : List Char) : Option (String × List Char) :=
  let name := cs.takeWhile (· ≠ '>')
  let goesOn (c : Char) : Bool := c ∈ ['_', '.', '[', ']'] || Text.isAlphanumeric c
  match name, cs.drop name.length with
  | c :: more, _ :: rest =>
    if (c = '_' || Text.isAlphabetic c) && more.all goesOn then some (String.ofList name, rest)
    else none
  | _, _ => none

/-- Change a style by one letter. -/
def Style.set? (st : Style) (on : Bool) : Char → Option Style
  | 'i' => some { st with anyCase := on }
  | 'u' => some { st with bytes := !on }
  | 'x' => some { st with spaced := on }
  | 'm' => some st
  | 's' => some st
  | 'U' => some st
  | 'R' => some st
  | _ => none

/-- The letters of a style up to the end of a group's head, each at most once; those behind a dash
are taken back.  Answers whether the head goes on with a group, and whether there was any letter. -/
def readStyle? (st : Style) (seen : List Char) :
    List Char → Option (Style × Bool × Bool × List Char)
  | [] => none
  | c :: cs =>
    if c = ':' ∨ c = ')' then
      if seen.head? = some '-' then none else some (st, c = ':', seen ≠ [], cs)
    else if c ∈ seen then none
    else if c = '-' then readStyle? st (c :: seen) cs
    else do readStyle? (← st.set? ('-' ∉ seen) c) (c :: seen) cs

/-- **What an opening parenthesis begins**, from behind it.  To look ahead or behind is refused. -/
def readGroup? (st : Style) (cs : List Char) : Option (Opening × List Char) :=
  let named (cs : List Char) : Option (Opening × List Char) := do
    let (name, rest) ← readName? cs
    some (.group st (some name), rest)
  match passSpace st cs with
  | '?' :: '=' :: _ => none
  | '?' :: '!' :: _ => none
  | '?' :: '<' :: '=' :: _ => none
  | '?' :: '<' :: '!' :: _ => none
  | '?' :: 'P' :: '<' :: rest => named rest
  | '?' :: '<' :: rest => named rest
  | '?' :: rest => do
    let (inner, isGroup, any, rest) ← readStyle? st [] rest
    if isGroup then some (.group inner none, rest)
    else if any then some (.change inner, rest)
    else none
  | rest => some (.group st none, rest)

/-! ### Patterns -/

/-- A group that is still open, or the pattern around all groups. -/
structure OpenGroup where
  style : Style
  /-- the depths of its alternatives that are complete -/
  alternatives : List Nat
  /-- the depths of the parts of the last alternative, the last first -/
  parts : List Nat
  /-- whether the last part can be repeated -/
  repeatable : Bool

namespace OpenGroup

/-- A group without anything in it. -/
def empty (st : Style) : OpenGroup :=
  ⟨st, [], [], false⟩

/-- One more part, which can be repeated. -/
def add (g : OpenGroup) (depth : Nat) : OpenGroup :=
  { g with parts := depth :: g.parts, repeatable := true }

/-- Repeat the last part. -/
def again (g : OpenGroup) : OpenGroup :=
  { g with parts := (g.parts.head?.getD 0 + 1) :: g.parts.drop 1 }

/-- Go on in another style. -/
def restyle (g : OpenGroup) (st : Style) : OpenGroup :=
  { g.add 0 with style := st, repeatable := false }

/-- Begin another alternative. -/
def alternate (g : OpenGroup) : OpenGroup :=
  { empty g.style with alternatives := depthOf g.parts :: g.alternatives }

/-- The depth of what is within a group. -/
def depth (g : OpenGroup) : Nat :=
  depthOf (depthOf g.parts :: g.alternatives)

end OpenGroup

/-- A place in a pattern. -/
structure Place where
  group : OpenGroup
  /-- the groups around, innermost first -/
  outer : List OpenGroup
  /-- the names of groups so far -/
  names : List String

namespace Place

/-- The beginning of a pattern about characters. -/
def start : Place :=
  ⟨.empty ⟨false, false, false⟩, [], []⟩

/-- Change the innermost group. -/
def within (p : Place) (group : OpenGroup) : Place :=
  { p with group := group }

/-- Begin a group. -/
def enter (p : Place) (st : Style) (name : Option String) : Place :=
  ⟨.empty st, p.group :: p.outer, name.toList ++ p.names⟩

/-- End the innermost group. -/
def leave? (p : Place) : Option Place :=
  match p.outer with
  | [] => none
  | g :: outer => some { p with group := g.add (p.group.depth + 1), outer := outer }

end Place

/-- Whether the rest of a text ends a pattern. -/
def endsWell : Nat → Place → List Char → Bool
  | 0, _, _ => false
  | n + 1, p, cs =>
    let g := p.group
    match passSpace g.style cs with
    | [] => p.outer.isEmpty && g.depth ≤ maxDepth
    | '(' :: rest =>
      match readGroup? g.style rest with
      | none => false
      | some (.change st, rest) => endsWell n (p.within (g.restyle st)) rest
      | some (.group st name, rest) =>
        name.all (· ∉ p.names) && endsWell n (p.enter st name) rest
    | ')' :: rest => p.leave?.any (endsWell n · rest)
    | '|' :: rest => endsWell n (p.within g.alternate) rest
    | '[' :: rest =>
      (readClass? g.style rest).any fun (depth, rest) => endsWell n (p.within (g.add depth)) rest
    | '\x7b' :: _ => false
    | '\\' :: rest =>
      match readEscape? g.style rest with
      | none => false
      | some (.literal _, rest) => !g.style.foldsCase && endsWell n (p.within (g.add 0)) rest
      | some (_, rest) => endsWell n (p.within (g.add 0)) rest
    | c :: rest =>
      if c ∈ ['?', '*', '+'] then
        g.repeatable &&
          endsWell n (p.within g.again) (if rest.head? = some '?' then rest.drop 1 else rest)
      else if c = '.' then !g.style.bytes && endsWell n (p.within (g.add 0)) rest
      else if c = '^' ∨ c = '$' then endsWell n (p.within (g.add 0)) rest
      else !g.style.foldsCase && endsWell n (p.within (g.add 0)) rest

end FeatureLock.Pattern

namespace FeatureLock

/-- **Whether a text is a pattern.** -/
def isPattern (s : String) : Bool :=
  Pattern.endsWell (s.length + 1) .start s.toList

end FeatureLock
