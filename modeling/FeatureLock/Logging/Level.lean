import FeatureLock.Number.Numeral

/-!
# Log levels

## Main Definitions

- `Level`, from errors to traces, with `rank`, `name` and `letter`
- `Level.read?`: the level that a text names
-/

namespace FeatureLock

/-- How much a log line matters, the most important first. -/
inductive Level where
  | error
  | warn
  | info
  | debug
  | trace
  deriving DecidableEq

namespace Level

/-- All levels, the most important first. -/
def all : List Level := [error, warn, info, debug, trace]

/-- One for errors up to five for traces. -/
def rank : Level → Nat
  | error => 1
  | warn => 2
  | info => 3
  | debug => 4
  | trace => 5

/-- The level of a rank. -/
def ofRank? : Nat → Option Level
  | 1 => some error
  | 2 => some warn
  | 3 => some info
  | 4 => some debug
  | 5 => some trace
  | _ => none

/-- The name of a level. -/
def name : Level → String
  | error => "ERROR"
  | warn => "WARN"
  | info => "INFO"
  | debug => "DEBUG"
  | trace => "TRACE"

/-- The first letter of a level's name. -/
def letter : Level → Char
  | error => 'E'
  | warn => 'W'
  | info => 'I'
  | debug => 'D'
  | trace => 'T'

/-- **The level that a text names**: by its name in any case, or by its rank. -/
def read? (s : String) : Option Level :=
  match Numeral.readUnsigned? s with
  | some n => ofRank? n
  | none => all.find? fun l => s.toUpper = l.name

end Level

end FeatureLock
