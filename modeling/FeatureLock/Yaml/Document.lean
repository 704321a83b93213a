import FeatureLock.Yaml.Node
import FeatureLock.Yaml.Notation

/-!
# YAML documents

## Main Definitions

- `Reading`: the tokens that are left, and the nodes that have names
- `Reading.node`: the node that the next tokens write
- `readDocument?`: the value of a text with at most one document

## Design Notes

A name refers to the node that it was last given to.  A reference into that node,
before the node is complete, is a bad node.
-/

namespace FeatureLock.Yaml

/-- Where a node stands, which decides which notations it may use. -/
inductive Position where
  /-- an item of a block list, or the whole document -/
  | item
  /-- a key or a value in a block mapping, where a list needs no indentation of its own -/
  | entry
  /-- within brackets -/
  | bracket
  deriving DecidableEq

/-- The tokens that are left, and the nodes that have names. -/
structure Reading where
  tokens : List Token
  /-- what a tag handle stands for -/
  handle : Option (String × String)
  /-- the names and the numbers of their nodes, the latest first -/
  names : List (String × Nat)
  /-- the nodes that are complete, by their numbers -/
  nodes : List (Nat × Node)

/-- What stands in front of a node: the number that its name has, and its tag. -/
structure Properties where
  number : Option Nat
  tag : Option Node.Tag

namespace Reading

/-- Go on with other tokens. -/
def after (r : Reading) (tokens : List Token) : Reading :=
  { r with tokens := tokens }

/-- Whether one of some tokens comes next. -/
def isAt (r : Reading) (stops : List Token) : Bool :=
  r.tokens.head?.any (· ∈ stops)

/-! ### Names and tags -/

/-- The node of a name. -/
def referent? (r : Reading) (name : String) : Option Node :=
  (r.names.lookup name).map fun i => (r.nodes.lookup i).getD .bad

/-- Give a name to the node that comes next; its number. -/
def giveName (r : Reading) (name : String) : Nat × Reading :=
  let i := r.names.length
  (i, { r with names := (name, i) :: r.names })

/-- Note that the node of a number is complete. -/
def complete (r : Reading) (number : Option Nat) (node : Node) : Reading :=
  match number with
  | some i => { r with nodes := (i, node) :: r.nodes }
  | none => r

/-- What a tag stands for.  A handle that is closed by a mark of its own has to be declared, apart
from the one of the tags that every text may use. -/
def resolve? (r : Reading) (handle suffix : String) : Option Node.Tag :=
  match r.handle.filter (·.1 = handle) with
  | some (_, front) => some ⟨front, suffix⟩
  | none =>
    if handle = "!!" then some ⟨Node.coreTags, suffix⟩
    else if isClosedHandle handle then none
    else some ⟨handle, suffix⟩

/-- The name and the tag in front of a node, in either order. -/
def properties (r : Reading) : Option (Properties × Reading) :=
  match r.tokens with
  | .anchor name :: .tag h s :: ts => do
    let (i, r) := r.giveName name
    some (⟨some i, some (← r.resolve? h s)⟩, r.after ts)
  | .anchor name :: ts =>
    let (i, r) := r.giveName name
    some (⟨some i, none⟩, r.after ts)
  | .tag h s :: .anchor name :: ts => do
    let (i, r) := r.giveName name
    some (⟨some i, some (← r.resolve? h s)⟩, r.after ts)
  | .tag h s :: ts => do some (⟨none, some (← r.resolve? h s)⟩, r.after ts)
  | _ => some (⟨none, none⟩, r)

/-- Past the comma before an item or an entry that is not the first. -/
def passComma (r : Reading) (first : Bool) : Option Reading :=
  if first then some r
  else match r.tokens with
    | .comma :: ts => some (r.after ts)
    | _ => none

/-! ### Nodes -/

/-- The tokens before which an item of a list without indentation, a key or a value is left out. -/
def entryStops : List Token := [.item, .key, .value, .blockEnd]

mutual

/-- **The node that the next tokens write**, and what is left. -/
def node : Nat → Position → Reading → Option (Node × Reading)
  | 0, _, _ => none
  | n + 1, p, r =>
    match r.tokens with
    | .alias name :: ts => do some (← r.referent? name, r.after ts)
    | _ => do
      let (props, r) ← r.properties
      let (x, r) ← content n p props r
      some (x, r.complete props.number x)

/-- What a node is behind its name and tag.  With either of them it may be left out. -/
def content : Nat → Position → Properties → Reading → Option (Node × Reading)
  | 0, _, _, _ => none
  | n + 1, p, props, r =>
    let bare : Option (Node × Reading) :=
      if props.number.isSome || props.tag.isSome then some (.ofScalar true props.tag "", r)
      else none
    match r.tokens with
    | .scalar plain s :: ts => some (.ofScalar plain props.tag s, r.after ts)
    | .flowList :: ts => do
      let (xs, r) ← bracketItems n true (r.after ts)
      some (.list xs, r)
    | .flowMapping :: ts => do
      let (xs, r) ← bracketEntries n true (r.after ts)
      some (← Node.mapping? xs, r)
    | .blockList :: ts =>
      if p = .bracket then bare
      else do
        let (xs, r) ← blockItems n (r.after ts)
        some (.list xs, r)
    | .blockMapping :: ts =>
      if p = .bracket then bare
      else do
        let (xs, r) ← blockEntries n (r.after ts)
        some (← Node.mapping? xs, r)
    | .item :: _ =>
      if p = .entry then do
        let (xs, r) ← alignedItems n r
        some (.list xs, r)
      else bare
    | _ => bare

/-- A node, or null where it is left out before some tokens. -/
def slot : Nat → Position → List Token → Reading → Option (Node × Reading)
  | 0, _, _, _ => none
  | n + 1, p, stops, r => if r.isAt stops then some (.null, r) else node n p r

/-- The items of a block list, up to its end. -/
def blockItems : Nat → Reading → Option (List Node × Reading)
  | 0, _ => none
  | n + 1, r =>
    match r.tokens with
    | .blockEnd :: ts => some ([], r.after ts)
    | .item :: ts => do
      let (x, r) ← slot n .item [.item, .blockEnd] (r.after ts)
      let (xs, r) ← blockItems n r
      some (x :: xs, r)
    | _ => none

/-- The items of a block list without indentation of its own. -/
def alignedItems : Nat → Reading → Option (List Node × Reading)
  | 0, _ => none
  | n + 1, r =>
    match r.tokens with
    | .item :: ts => do
      let (x, r) ← slot n .item entryStops (r.after ts)
      let (xs, r) ← alignedItems n r
      some (x :: xs, r)
    | _ => some ([], r)

/-- The keys and values of a block mapping in turn, up to its end. -/
def blockEntries : Nat → Reading → Option (List Node × Reading)
  | 0, _ => none
  | n + 1, r =>
    match r.tokens with
    | .blockEnd :: ts => some ([], r.after ts)
    | .key :: ts => do
      let (k, r) ← slot n .entry (entryStops.drop 1) (r.after ts)
      blockValue n k r
    | .value :: _ => blockValue n .null r
    | _ => none

/-- The value of a key, and the keys and values behind it. -/
def blockValue : Nat → Node → Reading → Option (List Node × Reading)
  | 0, _, _ => none
  | n + 1, k, r => do
    let (v, r) ← match r.tokens with
      | .value :: ts => slot n .entry (entryStops.drop 1) (r.after ts)
      | _ => some (.null, r)
    let (xs, r) ← blockEntries n r
    some (k :: v :: xs, r)

/-- The items in square brackets, up to the closing one. -/
def bracketItems : Nat → Bool → Reading → Option (List Node × Reading)
  | 0, _, _ => none
  | n + 1, first, r =>
    match r.tokens with
    | .flowListEnd :: ts => some ([], r.after ts)
    | _ => do
      let r ← r.passComma first
      match r.tokens with
      | .flowListEnd :: ts => some ([], r.after ts)
      | .key :: ts => do
        let (x, r) ← pair n (r.after ts)
        let (xs, r) ← bracketItems n false r
        some (x :: xs, r)
      | _ => do
        let (x, r) ← node n .bracket r
        let (xs, r) ← bracketItems n false r
        some (x :: xs, r)

/-- A mapping of one entry without braces, from behind the mark of its key.  A key that is left out
takes along the token in its place. -/
def pair : Nat → Reading → Option (Node × Reading)
  | 0, _ => none
  | n + 1, r => do
    let (k, r) ←
      if r.isAt [.value, .comma, .flowListEnd] then some (.null, r.after (r.tokens.drop 1))
      else node n .bracket r
    let (v, r) ← match r.tokens with
      | .value :: ts => slot n .bracket [.comma, .flowListEnd] (r.after ts)
      | _ => some (.null, r)
    some (← Node.mapping? [k, v], r)

/-- The keys and values in braces in turn, up to the closing one. -/
def bracketEntries : Nat → Bool → Reading → Option (List Node × Reading)
  | 0, _, _ => none
  | n + 1, first, r =>
    match r.tokens with
    | .flowMappingEnd :: ts => some ([], r.after ts)
    | _ => do
      let r ← r.passComma first
      match r.tokens with
      | .flowMappingEnd :: ts => some ([], r.after ts)
      | .key :: ts => do
        let (k, r) ← slot n .bracket [.value, .comma, .flowMappingEnd] (r.after ts)
        bracketValue n k r
      | .value :: _ => bracketValue n .null r
      | _ => do
        let (k, r) ← node n .bracket r
        let (xs, r) ← bracketEntries n false r
        some (k :: .null :: xs, r)

/-- The value of a key in braces, and the keys and values behind it. -/
def bracketValue : Nat → Node → Reading → Option (List Node × Reading)
  | 0, _, _ => none
  | n + 1, k, r => do
    let (v, r) ← match r.tokens with
      | .value :: ts => slot n .bracket [.comma, .flowMappingEnd] (r.after ts)
      | _ => some (.null, r)
    let (xs, r) ← bracketEntries n false r
    some (k :: v :: xs, r)

end

end Reading

/-! ### Documents -/

/-- Past the directives in front of a document, with what the last one says about a tag handle; the
version may be given once. -/
def passDirectives (version : Bool) (handle : Option (String × String)) :
    List Token → Option (Option (String × String) × List Token)
  | .version :: ts => if version then none else passDirectives true none ts
  | .tagHandle h front :: ts => passDirectives version (some (h, front)) ts
  | ts => some (handle, ts)

/-- **The value of a text with at most one document.**  A text without any is an empty table.
Directives need a mark behind them that begins the document. -/
def readDocument? (s : String) : Option Value := do
  let tokens := (← Token.ofText? s).dropWhile (· = .documentEnd)
  if tokens = [] then some (.table [])
  else
    let (handle, ts) ← passDirectives false none tokens
    let content ← match ts with
      | .documentStart :: ts => some ts
      | _ => if ts.length = tokens.length then some ts else none
    let r : Reading := ⟨content, handle, [], []⟩
    let (x, r) ← r.node (4 * content.length + 4) .item
    if r.tokens.all (· = .documentEnd) then x.toValue? else none

end FeatureLock.Yaml
