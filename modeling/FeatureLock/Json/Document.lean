import FeatureLock.Json.Token

/-!
# JSON values of any kind

Reading a whole text as one structured value, and passing over a value that
nobody asked for.

## Main Definitions

- `skipValue`: the characters after a value, whatever it is
- `readValue`: a value of any kind
- `readDocument`: a text that holds one value and nothing else

## Design Notes

Values nest, so the readers recurse on a budget of steps.  Every two steps
consume a character, and the budgets handed out here, twice the length of the
text and more, never run out.  A value that is kept may nest `maxDepth` deep;
one that is passed over may nest to any depth.
-/

namespace FeatureLock.Json

/-- Steps enough for any value at the front of a text. -/
def budget (cs : List Char) : Nat :=
  2 * cs.length + 2

/-- What follows an item or a member: a comma and the next one, or the closing bracket. -/
inductive Next where
  | more (rest : List Char)
  | done (rest : List Char)

/-- The comma or the closing bracket that has to come now. -/
def next (close : Char) (cs : List Char) : Except Fault Next :=
  match skipSpace cs with
  | [] => .error .cutShort
  | c :: cs =>
    if c = ',' then .ok (.more cs)
    else if c = close then .ok (.done cs)
    else .error .malformed

/-- The colon after the name of a member. -/
def colon (cs : List Char) : Except Fault (List Char) :=
  match skipSpace cs with
  | [] => .error .cutShort
  | c :: cs => if c = ':' then .ok cs else .error .malformed

/-- The opening quote of the name of a member. -/
def openName (cs : List Char) : Except Fault (List Char) :=
  match skipSpace cs with
  | [] => .error .cutShort
  | c :: cs => if c = '"' then .ok cs else .error .malformed

/-! ### Passing over a value -/

mutual

/-- The characters after the value at the front of a text. -/
def skipValue : Nat → List Char → Except Fault (List Char)
  | 0, _ => .error .cutShort
  | n + 1, cs =>
    match skipSpace cs with
    | [] => .error .cutShort
    | 'n' :: cs => expect ['u', 'l', 'l'] cs
    | 't' :: cs => expect ['r', 'u', 'e'] cs
    | 'f' :: cs => expect ['a', 'l', 's', 'e'] cs
    | '"' :: cs => (scanText false .plain cs).map (·.2)
    | '[' :: cs =>
      match skipSpace cs with
      | ']' :: cs => .ok cs
      | cs => skipItems n cs
    | '{' :: cs =>
      match skipSpace cs with
      | '}' :: cs => .ok cs
      | cs => skipMembers n cs
    | c :: cs =>
      if startsNumber c then (scanNumber .malformed (c :: cs)).map (·.2) else .error .malformed

/-- The characters after the items of a list and its closing bracket. -/
def skipItems : Nat → List Char → Except Fault (List Char)
  | 0, _ => .error .cutShort
  | n + 1, cs => do
    match ← next ']' (← skipValue n cs) with
    | .more cs => skipItems n cs
    | .done cs => .ok cs

/-- The characters after the members of an object and its closing bracket. -/
def skipMembers : Nat → List Char → Except Fault (List Char)
  | 0, _ => .error .cutShort
  | n + 1, cs => do
    let (_, cs) ← scanText false .plain (← openName cs)
    match ← next '}' (← skipValue n (← colon cs)) with
    | .more cs => skipMembers n cs
    | .done cs => .ok cs

end

/-! ### Keeping a value -/

/-- How deep lists and objects may nest in a value that is kept. -/
def maxDepth : Nat := 127

mutual

/-- The value at the front of a text, nested at most `depth` deep. -/
def readValue : Nat → Nat → List Char → Scan Value
  | 0, _, _ => .error .cutShort
  | n + 1, depth, cs =>
    match skipSpace cs with
    | [] => .error .cutShort
    | 'n' :: cs => (expect ['u', 'l', 'l'] cs).map (.null, ·)
    | 't' :: cs => (expect ['r', 'u', 'e'] cs).map (.bool true, ·)
    | 'f' :: cs => (expect ['a', 'l', 's', 'e'] cs).map (.bool false, ·)
    | '"' :: cs => (scanText true .plain cs).map fun (s, cs) => (.text (String.ofList s), cs)
    | '[' :: cs =>
      match depth with
      | 0 => .error .malformed
      | depth + 1 =>
        match skipSpace cs with
        | ']' :: cs => .ok (.list [], cs)
        | cs => (readItems n depth cs).map fun (vs, cs) => (.list vs, cs)
    | '{' :: cs =>
      match depth with
      | 0 => .error .malformed
      | depth + 1 =>
        match skipSpace cs with
        | '}' :: cs => .ok (.table [], cs)
        | cs => (readMembers n depth [] cs).map fun (es, cs) => (.table es, cs)
    | c :: cs => if startsNumber c then readNumber (c :: cs) else .error .malformed

/-- The items of a list up to its closing bracket. -/
def readItems : Nat → Nat → List Char → Except Fault (List Value × List Char)
  | 0, _, _ => .error .cutShort
  | n + 1, depth, cs => do
    let (v, cs) ← readValue n depth cs
    match ← next ']' cs with
    | .more cs => (readItems n depth cs).map fun (vs, cs) => (v :: vs, cs)
    | .done cs => .ok ([v], cs)

/-- The members of an object up to its closing bracket, added to those read before; of two members
of one name the later counts. -/
def readMembers : Nat → Nat → Entries → List Char → Except Fault (Entries × List Char)
  | 0, _, _, _ => .error .cutShort
  | n + 1, depth, found, cs => do
    let (name, cs) ← scanText true .plain (← openName cs)
    let (v, cs) ← readValue n depth (← colon cs)
    let found := found.put (String.ofList name) v
    match ← next '}' cs with
    | .more cs => readMembers n depth found cs
    | .done cs => .ok (found, cs)

end

/-! ### Whole texts -/

/-- A text that holds what `read` reads, white space around it and nothing else. -/
def whole {α : Type} (read : List Char → Scan α) (s : String) : Except Fault α := do
  let (a, rest) ← read s.toList
  match skipSpace rest with
  | [] => .ok a
  | _ :: _ => .error .malformed

/-- **A text that holds one value and nothing else.** -/
def readDocument (s : String) : Except Fault Value :=
  whole (fun cs => readValue (budget cs) maxDepth cs) s

end FeatureLock.Json
