import FeatureLock.Text.Blank
import FeatureLock.Text.LowerCase

/-!
# Storage modes

Features are kept in an external database or in memory.

## Main Definitions

- `StorageMode`, with `name` and `variant`: its two spellings
- `StorageMode.read?`: the mode that a setting names
-/

namespace FeatureLock

/-- Where features are kept. -/
inductive StorageMode where
  | externalDb
  | memory
  deriving DecidableEq

namespace StorageMode

/-- The mode as messages and settings name it. -/
def name : StorageMode → String
  | externalDb => "external_db"
  | memory => "memory"

/-- The mode as its JSON form names it. -/
def variant : StorageMode → String
  | externalDb => "ExternalDb"
  | memory => "Memory"

/-- The words for the external database. -/
def databaseWords : List String :=
  ["external_db", "external-db", "db", "mysql", "postgresql", "sqlite"]

/-- The words for memory. -/
def memoryWords : List String :=
  ["memory", "mem"]

/-- **The mode that a setting names**, in any case and with white space around it. -/
def read? (s : String) : Option StorageMode :=
  let word := Text.lower (Text.trim s)
  if word ∈ databaseWords then some externalDb
  else if word ∈ memoryWords then some memory
  else none

/-- The wording for a setting that names no mode; it holds the setting as it was given. -/
def invalidMessage (s : String) : String :=
  "Invalid storage mode: " ++ s

end StorageMode

end FeatureLock
