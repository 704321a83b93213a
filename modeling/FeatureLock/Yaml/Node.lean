import FeatureLock.Value
import FeatureLock.Yaml.Cursor

/-!
# The nodes of a YAML text

A node is a scalar, a list or a mapping.  What a scalar without quotes means is
read off its text, unless a tag says it.

## Main Definitions

- `Node`: a node of a text
- `Node.ofPlain`: what a scalar without quotes means
- `Tag`, `Node.ofScalar`: a tag, and what a scalar means under it
- `Node.same`: whether two nodes are equal
- `Node.mapping?`: the mapping of keys and values that take turns
- `Node.toValue?`: the value that a node denotes

## Design Notes

Every node can be a key, but a mapping with a null, a list or a mapping among its keys
denotes no value.  A number with a point or an exponent keeps its text, by which it is
compared.
-/

namespace FeatureLock.Yaml

/-- A node of a YAML text. -/
inductive Node where
  | null
  /-- a scalar that does not suit its tag, or a reference into a node that is not complete -/
  | bad
  | bool (b : Bool)
  | int (n : Int)
  | real (text : String)
  | text (s : String)
  | list (items : List Node)
  | mapping (entries : List (Node × Node))

namespace Node

/-! ### Scalars -/

/-- An integer of 64 bits. -/
def inRange? (n : Int) : Option Int :=
  if -9223372036854775808 ≤ n ∧ n ≤ 9223372036854775807 then some n else none

/-- An integer of 64 bits in base ten. -/
def readInt? (cs : List Char) : Option Int :=
  (Numeral.read? (String.ofList cs)).bind inRange?

/-- An integer of 64 bits in another base, with an optional sign. -/
def readInBase? (base : Nat) (cs : List Char) : Option Int :=
  let digits? (ds : List Char) : Option Int := do
    if ds = [] then none
    let ns ← ds.mapM (digitIn? base)
    some (ns.foldl (fun a d => a * base + d) 0 : Nat)
  let n? := match cs with
    | '-' :: ds => (digits? ds).map (- ·)
    | '+' :: ds => digits? ds
    | ds => digits? ds
  n?.bind inRange?

/-- An integer with a mark in front: of its base, or a plus sign. -/
def readMarked? : List Char → Option Int
  | '0' :: 'x' :: cs => readInBase? 16 cs
  | '0' :: 'o' :: cs => readInBase? 8 cs
  | '+' :: cs => readInt? cs
  | _ => none

/-- The words for what is true. -/
def trueWords : List String := ["true", "True", "TRUE"]

/-- The words for what is false. -/
def falseWords : List String := ["false", "False", "FALSE"]

/-- The words for infinity and for no number. -/
def realWords : List String :=
  [".inf", ".Inf", ".INF", "+.inf", "+.Inf", "+.INF", "-.inf", "-.Inf", "-.INF", ".nan", ".NaN",
    ".NAN"]

/-- Whether a text is a number that need not be an integer. -/
def isReal (s : String) : Bool :=
  s ∈ realWords || (s.toList.any Numeral.isDigit && (Binary64.read? s).isSome)

/-- **What a scalar without quotes means.** -/
def ofPlain (s : String) : Node :=
  match readMarked? s.toList with
  | some n => int n
  | none =>
    if s ∈ ["", "~", "null"] then null
    else if s ∈ trueWords then bool true
    else if s ∈ falseWords then bool false
    else match readInt? s.toList with
      | some n => int n
      | none => if isReal s then real s else text s

/-- A tag: what its handle stands for, and the rest of it. -/
structure Tag where
  front : String
  suffix : String
  deriving DecidableEq

/-- The front of the tags that every text may use. -/
def coreTags : String := "tag:yaml.org,2002:"

/-- What a scalar without quotes means under a tag.  A tag that is not known makes it text. -/
def ofTagged (t : Tag) (s : String) : Node :=
  if t.front ≠ coreTags then text s
  else if t.suffix = "bool" then
    if s ∈ trueWords then bool true else if s ∈ falseWords then bool false else bad
  else if t.suffix = "int" then (readInt? s.toList).elim bad int
  else if t.suffix = "float" then if isReal s then real s else bad
  else if t.suffix = "null" then if s = "~" ∨ s = "null" then null else bad
  else text s

/-- **What a scalar means.**  With quotes it is text, whatever its tag. -/
def ofScalar (plain : Bool) (tag : Option Tag) (s : String) : Node :=
  if plain then tag.elim (ofPlain s) (ofTagged · s) else text s

/-! ### Mappings -/

mutual

/-- **Whether two nodes are equal.**  Numbers are compared by their texts, and the entries of
mappings in their order. -/
def same : Node → Node → Bool
  | null, null => true
  | bad, bad => true
  | bool a, bool b => a == b
  | int m, int n => m == n
  | real s, real t => s == t
  | text s, text t => s == t
  | list xs, list ys => sameItems xs ys
  | mapping es, mapping fs => sameEntries es fs
  | _, _ => false

/-- Whether two lists have equal items. -/
def sameItems : List Node → List Node → Bool
  | [], [] => true
  | x :: xs, y :: ys => same x y && sameItems xs ys
  | _, _ => false

/-- Whether two mappings have equal entries. -/
def sameEntries : List (Node × Node) → List (Node × Node) → Bool
  | [], [] => true
  | (k, v) :: es, (l, w) :: fs => same k l && same v w && sameEntries es fs
  | _, _ => false

end

/-- The entries of nodes that take turns as keys and values, added to those before.  A bad node is
no key, so that the next node is one in its place; a last key without a value does not count; a key
that is there already is refused. -/
def pairUp? : List (Node × Node) → List Node → Option (List (Node × Node))
  | found, [] => some found
  | found, bad :: nodes => pairUp? found nodes
  | found, [_] => some found
  | found, k :: v :: nodes =>
    if found.any (same ·.1 k) then none else pairUp? (found ++ [(k, v)]) nodes

/-- **The mapping of nodes that take turns as keys and values.** -/
def mapping? (nodes : List Node) : Option Node :=
  (pairUp? [] nodes).map mapping

/-! ### Values -/

/-- The text of a key.  Nothing denotes a key that is null, a list or a mapping. -/
def name? : Node → Option String
  | bool b => some (if b then "true" else "false")
  | int n => some (Numeral.write n)
  | real s => some s
  | text s => some s
  | _ => none

mutual

/-- **The value that a node denotes.**  A word for infinity or for no number denotes none. -/
def toValue? : Node → Option Value
  | null => some .null
  | bad => some .null
  | bool b => some (.bool b)
  | int n => some (.int n)
  | real s => (Binary64.read? s).map .float
  | text s => some (.text s)
  | list nodes => (toItems? nodes).map .list
  | mapping entries => (toEntries? [] entries).map .table

/-- The values of the items of a list. -/
def toItems? : List Node → Option (List Value)
  | [] => some []
  | node :: nodes => do
    let v ← node.toValue?
    let vs ← toItems? nodes
    some (v :: vs)

/-- The values of the entries of a mapping, added to those before; of keys with one text the last
counts. -/
def toEntries? : Entries → List (Node × Node) → Option Entries
  | es, [] => some es
  | es, (k, node) :: entries => do
    let name ← k.name?
    let v ← node.toValue?
    toEntries? (es.put name v) entries

end

end Node

end FeatureLock.Yaml
