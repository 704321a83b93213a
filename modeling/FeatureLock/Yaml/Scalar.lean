import FeatureLock.Yaml.Cursor

/-!
# Scalars on one or more lines

A scalar without quotes or in quotes may go on over several lines.  A single line
break between two parts of it stands for a space, and each further one for a line
feed.  A comment behind a tab that stands for no indentation is content of its
line as far as line breaks go.

## Main Definitions

- `Fold`, `Fold.text`: white space between two parts of a scalar, and what it
  stands for
- `readQuoted?`: a scalar in quotes
- `readPlain?`: a scalar without quotes
-/

namespace FeatureLock.Yaml

/-! ### White space within a scalar -/

/-- White space between two parts of a scalar. -/
structure Fold where
  /-- the spaces and tabs since the last line break -/
  spaces : List Char
  /-- whether a line break was passed that ended a line with anything on it -/
  ended : Bool
  /-- how many line breaks of empty lines were passed -/
  breaks : Nat

namespace Fold

/-- No white space. -/
def empty : Fold := ⟨[], false, 0⟩

/-- **What white space within a scalar stands for**, in front of what follows in the margin of a
line or behind it. -/
def text (f : Fold) (inMargin : Bool) : List Char :=
  if !inMargin then f.spaces
  else if f.ended && f.breaks == 0 then [' ']
  else List.replicate f.breaks '\n'

/-- One more line break, in the margin of a line or behind it. -/
def addBreak (f : Fold) (inMargin : Bool) : Fold :=
  if inMargin then { f with breaks := f.breaks + 1 } else { f with spaces := [], ended := true }

/-- All white space from a place on.  `tab` says where a tab leads that stands among the
indentation of a line, if it may stand there. -/
def pass (tab : Cursor → Option Cursor) : Nat → Fold → Cursor → Option (Fold × Cursor)
  | 0, _, _ => none
  | n + 1, f, c =>
    match c.rest with
    | [] => some (f, c)
    | d :: _ =>
      if isBreak d then pass tab n (f.addBreak c.inMargin) c.passBreak
      else if isGap d then
        if !c.inMargin then pass tab n { f with spaces := f.spaces ++ [d] } (c.passGaps 1)
        else if d = '\t' then do pass tab n f (← tab c)
        else pass tab n f (c.passGaps 1)
      else some (f, c)

end Fold

/-! ### Scalars in quotes -/

/-- The character of a one-letter escape. -/
def escaped? : Char → Option Char
  | '0' => some '\x00'
  | 'a' => some '\x07'
  | 'b' => some '\x08'
  | 't' => some '\t'
  | '\t' => some '\t'
  | 'n' => some '\n'
  | 'v' => some '\x0b'
  | 'f' => some '\x0c'
  | 'r' => some '\r'
  | 'e' => some '\x1b'
  | ' ' => some ' '
  | '"' => some '"'
  | '/' => some '/'
  | '\\' => some '\\'
  | 'N' => some '\u0085'
  | '_' => some '\u00a0'
  | 'L' => some '\u2028'
  | 'P' => some '\u2029'
  | _ => none

/-- How many hexadecimal digits follow the letter of an escape. -/
def hexLength? : Char → Option Nat
  | 'x' => some 2
  | 'u' => some 4
  | 'U' => some 8
  | _ => none

/-- The character of an escape, from behind its backslash, and the length of the escape. -/
def readEscape? : List Char → Option (Char × Nat)
  | [] => none
  | letter :: cs =>
    match escaped? letter, hexLength? letter with
    | some d, _ => some (d, 1)
    | none, some n => do
      let ds ← (cs.take n).mapM (digitIn? 16)
      let code := ds.foldl (fun a d => a * 16 + d) 0
      if ds.length = n ∧ code.isValidChar then some (Char.ofNat code, n + 1) else none
    | none, none => none

/-- A part of a scalar in quotes: its characters up to white space, the closing quote or the end of
an escaped line break. -/
def quotedPart (quote : Char) : Nat → Cursor → Option (List Char × Cursor)
  | 0, _ => none
  | n + 1, c =>
    let push (d : Char) (length : Nat) : Option (List Char × Cursor) :=
      (quotedPart quote n (c.pass length)).map fun (cs, c) => (d :: cs, c)
    match c.rest with
    | [] => some ([], c)
    | d :: cs =>
      if isGap d || isBreak d then some ([], c)
      else if d = quote then
        if quote = '\'' ∧ cs.head? = some '\'' then push '\'' 2 else some ([], c)
      else if d = '\\' ∧ quote = '"' then
        if cs.head?.any isBreak then some ([], (c.pass 1).passBreak)
        else do
          let (e, length) ← readEscape? cs
          push e (length + 1)
      else push d 1

/-- The parts of a scalar in quotes up to the closing quote, added to those before. -/
def quotedParts (quote : Char) (indent : Int) :
    Nat → List Char → Cursor → Option (List Char × Cursor)
  | 0, _, _ => none
  | n + 1, found, c =>
    if c.atDocumentMark || c.rest.isEmpty || decide ((c.column : Int) < indent) then none
    else do
      let (cs, c) ← quotedPart quote c.budget c
      if c.rest.head? = some quote then some (found ++ cs, c.pass 1)
      else do
        let (f, c) ← Fold.pass tab c.budget .empty c
        quotedParts quote indent n (found ++ cs ++ f.text c.inMargin) c
where
  /-- A tab among the indentation has to stand deep enough. -/
  tab (c : Cursor) : Option Cursor :=
    if (c.column : Int) < indent then none else some (c.passGaps 1)

/-- **A scalar in quotes**, from its opening quote on, and the place behind it and the white space
after it.  What may follow is a line end, the colon of a key, or in flow notation what ends an
item. -/
def readQuoted? (quote : Char) (indent : Int) (inFlow : Bool) (c : Cursor) :
    Option (String × Cursor) := do
  let line := c.line
  let (cs, c) ← quotedParts quote indent c.budget [] (c.pass 1)
  let (_, c) ← c.toLineEnd true
  let follows : Bool := match c.rest with
    | [] => true
    | ':' :: _ => inFlow || c.line == line
    | d :: _ => isBreak d || (inFlow && d ∈ [',', '}', ']'])
  if follows then some (String.ofList cs, c) else none

/-! ### Scalars without quotes -/

/-- Whether a character may go on a scalar without quotes, before the given ones. -/
def goesOn (inFlow : Bool) (c : Char) (cs : List Char) : Bool :=
  if c = ':' then !(cs.head?.all fun d => isGap d || isBreak d || (inFlow && isFlow d))
  else !(isGap c || isBreak c || (inFlow && isFlow c))

/-- The characters of a scalar without quotes up to white space or what ends the scalar. -/
def plainPart (inFlow : Bool) : List Char → List Char
  | [] => []
  | c :: cs => if goesOn inFlow c cs then c :: plainPart inFlow cs else []

/-- The parts of a scalar without quotes, added to those before; `limit` is the column that its
lines have to reach. -/
def plainParts (inFlow : Bool) (limit : Int) :
    Nat → List Char → Fold → Cursor → Option (List Char × Cursor)
  | 0, _, _, _ => none
  | n + 1, found, f, c =>
    if c.atDocumentMark || c.rest.head? == some '#' then some (found, c)
    else if inFlow && c.rest.head? == some '-' && c.rest[1]?.any isFlow then none
    else
      let cs := plainPart inFlow c.rest
      let found := if cs = [] then found else found ++ f.text c.inMargin ++ cs
      let c := c.pass cs.length
      if c.rest.head?.any fun d => isGap d || isBreak d then do
        let (f, c) ← Fold.pass tab c.budget .empty c
        if !inFlow && decide ((c.column : Int) < limit) then some (found, c)
        else plainParts inFlow limit n found f c
      else some (found, c)
where
  /-- A tab among the indentation may stand on a line without anything else. -/
  tab (c : Cursor) : Option Cursor :=
    if (c.column : Int) < limit then do
      let (_, c) ← c.toLineEnd true
      if c.atLineEnd then some c else none
    else some (c.passGaps 1)

/-- **A scalar without quotes**, below the indentation of a block, and the place behind it and the
white space after it. -/
def readPlain? (indent : Int) (inFlow : Bool) (c : Cursor) : Option (String × Cursor) :=
  if inFlow && decide ((c.column : Int) < indent + 1) then none
  else do
    let (cs, c) ← plainParts inFlow (indent + 1) c.budget [] .empty c
    some (String.ofList cs, c)

end FeatureLock.Yaml
