import FeatureLock.Config.Path
import FeatureLock.Json.Document
import FeatureLock.Yaml.Document

/-!
# Configuration files

A configuration file is a JSON or a YAML text whose root is a table.  A byte
order mark in front of the text does not count.

## Main Definitions

- `Source`: the content of a configuration file
- `Source.entries?`: the settings in it, if it can be read
-/

namespace FeatureLock

/-- The content of a configuration file. -/
inductive Source where
  | json (text : String)
  | yaml (text : String)

namespace Source

/-- A text without the byte order mark in front. -/
def unmarked (s : String) : String :=
  match s.toList with
  | '\uFEFF' :: cs => String.ofList cs
  | _ => s

/-- The root of a configuration file, if the file can be read. -/
def root? : Source → Option Value
  | json s => (Json.readDocument (unmarked s)).toOption
  | yaml s => Yaml.readDocument? (unmarked s)

/-- **The settings in a configuration file**, if its root is a table. -/
def entries? (s : Source) : Option Entries :=
  match s.root? with
  | some (.table es) => some es
  | _ => none

end Source

end FeatureLock
