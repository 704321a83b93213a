import FeatureLock.Json.Record
import FeatureLock.Json.Writer
import FeatureLock.Text.Blank

/-!
# Reasons as stored text

A table column holds a list of reasons as one text: a JSON list of strings, so
that every character may stand in a reason.

## Main Definitions

- `encode`: the text of a list
- `decode`: the list of a stored text; NULL and blank text stand for the empty list
-/

namespace FeatureLock.ReasonText

/-- The text of the empty list. -/
def emptyText : String := "[]"

/-- The text of a list of reasons. -/
def encode (reasons : List String) : String :=
  Json.write (.list (reasons.map .text))

/-- **The list of a stored text.**  White space around the text does not matter; a column that is
NULL or blank holds no reasons. -/
def decode (stored : Option String) : Except Json.Fault (List String) :=
  match stored.map Text.trim with
  | none => .ok []
  | some s => if s = "" then .ok [] else Json.whole Json.readStrings s

end FeatureLock.ReasonText
