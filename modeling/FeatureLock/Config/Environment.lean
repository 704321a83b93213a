import FeatureLock.Config.Path
import FeatureLock.Text.LowerCase

/-!
# Environment variables

Settings may be given by environment variables.  A variable whose name begins
with `FEATGATE_`, in any case, sets the path that the rest of its name writes,
in lower case and with a point for every two underscores.

## Main Definitions

- `Environment`: names with their values
- `Environment.valueOf`: the value that the text of a variable denotes
- `Environment.layer`: the settings among the variables
-/

namespace FeatureLock

/-- Environment variables with their values. -/
abbrev Environment := List (String × String)

namespace Environment

/-- The value of a variable. -/
def get? (env : Environment) (name : String) : Option String :=
  env.lookup name

/-- What the names of settings begin with, in lower case. -/
def mark : List Char :=
  "featgate_".toList

/-- A point for every two underscores, from the left. -/
def pointed : List Char → List Char
  | '_' :: '_' :: cs => '.' :: pointed cs
  | c :: cs => c :: pointed cs
  | [] => []

/-- The key that a variable sets, if it is a setting. -/
def keyOf? (name : String) : Option String :=
  let cs := (Text.lower name).toList
  if mark.isPrefixOf cs then some (String.ofList (pointed (cs.drop mark.length))) else none

/-- **The value that a text denotes**: a truth value, an integer of 64 bits, a floating-point
number, or else the text. -/
def valueOf (s : String) : Value :=
  let word := Text.lower s
  if word = "true" then .bool true
  else if word = "false" then .bool false
  else
    let whole? := (Numeral.read? s).filter fun n =>
      -9223372036854775808 ≤ n ∧ n ≤ 9223372036854775807
    match whole?, Binary64.read? s with
    | some n, _ => .int n
    | none, some x => .float x
    | none, none => .text s

/-- **The settings among the variables**, as keys with values. -/
def layer (env : Environment) : Entries :=
  env.filterMap fun e => (keyOf? e.1).map (·, valueOf e.2)

end Environment

end FeatureLock
