import FeatureLock.Config.Environment

/-!
# The command line

The host knows three options with a value, a switch and a request for help.
Options come in a long and, some of them, in a short spelling, with their value
attached or as the next word.

## Main Definitions

- `CommandLine`: the options as they were given
- `UsageFault`: why a command line was refused, or that it asks for help
- `CommandLine.read`: the options of a list of words

## Design Notes

Words are taken from left to right.  An option whose value is the next word is
settled only when the next option comes or the words end (`Scan.settle`): until
then it may still miss its value, or turn out to have been given before.  A word
that nothing knows ends the reading without settling it.
-/

namespace FeatureLock

/-- The options of the host as they were given. -/
structure CommandLine where
  configFile : String
  dbUrl : Option String
  storage : Option String
  initSchema : Bool
  deriving DecidableEq

/-- Why a command line is not carried out. -/
inductive UsageFault where
  | unknownArgument
  /-- an option without its value -/
  | invalidValue
  /-- a value for an option that takes none -/
  | tooManyValues
  /-- an option that is given twice -/
  | argumentConflict
  /-- no fault: help was asked for -/
  | displayHelp
  deriving DecidableEq

namespace CommandLine

/-- The options with a value. -/
inductive Valued where
  | config
  | dbUrl
  | storage
  deriving DecidableEq

/-- What a word may ask for. -/
inductive Asked where
  | value (o : Valued)
  | initSchema
  | help

/-- The long spellings. -/
def long? (name : String) : Option Asked :=
  if name = "config" then some (.value .config)
  else if name = "db-url" then some (.value .dbUrl)
  else if name = "storage" then some (.value .storage)
  else if name = "init-schema" then some .initSchema
  else if name = "help" then some .help
  else none

/-- The short spellings. -/
def short? (c : Char) : Option Asked :=
  if c = 'c' then some (.value .config)
  else if c = 's' then some (.value .storage)
  else if c = 'h' then some .help
  else none

/-- A word of the command line. -/
inductive Word where
  /-- `--name` or `--name=value` -/
  | long (name : String) (attached : Option String)
  /-- `-c` and the characters after it -/
  | short (c : Char) (rest : List Char)
  /-- `--`, after which no options come -/
  | endOfOptions
  | plain (text : String)

/-- The kind of a word. -/
def Word.ofString (s : String) : Word :=
  match s.toList with
  | ['-', '-'] => .endOfOptions
  | '-' :: '-' :: cs =>
    let name := String.ofList (cs.takeWhile (· != '='))
    match cs.dropWhile (· != '=') with
    | [] => .long name none
    | _ :: v => .long name (some (String.ofList v))
  | '-' :: c :: cs => .short c cs
  | _ => .plain s

/-- The value attached to a short option: the characters after it, without an equals sign in
front. -/
def attachedTo : List Char → Option String
  | [] => none
  | '=' :: v => some (String.ofList v)
  | v => some (String.ofList v)

/-- The reading of a command line so far. -/
structure Scan where
  given : List (Valued × String)
  initSchema : Bool
  /-- the option that was named last, and its value if it has come -/
  pending : Option (Valued × Option String)
  /-- whether no options may come any more -/
  ended : Bool

namespace Scan

/-- Nothing read. -/
def start : Scan := ⟨[], false, none, false⟩

/-- Give an option its value, unless it has one. -/
def give (s : Scan) (o : Valued) (v : String) : Except UsageFault Scan :=
  if (s.given.lookup o).isSome then .error .argumentConflict
  else .ok { s with given := (o, v) :: s.given }

/-- Settle the option that was named last. -/
def settle (s : Scan) : Except UsageFault Scan :=
  match s.pending with
  | none => .ok s
  | some (_, none) => .error .invalidValue
  | some (o, some v) => { s with pending := none }.give o v

/-- What a word asks for, with the value attached to it.  Help wins over a value attached to it
only in the short spelling, where the characters after it are options of their own. -/
def ask (s : Scan) : Asked → Option String → Except UsageFault Scan
  | .value o, some v => do (← s.settle).give o v
  | .value o, none => do return { ← s.settle with pending := some (o, none) }
  | .initSchema, some _ => .error .tooManyValues
  | .initSchema, none => do
    let s ← s.settle
    if s.initSchema then .error .argumentConflict else .ok { s with initSchema := true }
  | .help, some _ => .error .tooManyValues
  | .help, none => do
    let _ ← s.settle
    .error .displayHelp

/-- Read one word. -/
def word (s : Scan) (w : String) : Except UsageFault Scan :=
  if s.ended then .error .unknownArgument
  else match Word.ofString w with
    | .endOfOptions => .ok { s with ended := true }
    | .long name attached =>
      match long? name with
      | some a => s.ask a attached
      | none => .error .unknownArgument
    | .short c rest =>
      match short? c with
      | some .help => s.ask .help none
      | some a => s.ask a (attachedTo rest)
      | none => .error .unknownArgument
    | .plain text =>
      match s.pending with
      | some (o, none) => .ok { s with pending := some (o, some text) }
      | _ => .error .unknownArgument

end Scan

/-- The configuration file that is read unless another one is named. -/
def defaultConfigFile : String := "conf/application.yml"

/-- **The options of a list of words.**  Where no database address is given, the variable
`DATABASE_URL` gives it. -/
def read (env : Environment) (words : List String) : Except UsageFault CommandLine := do
  let s ← (← words.foldlM Scan.word Scan.start).settle
  return {
    configFile := (s.given.lookup .config).getD defaultConfigFile
    dbUrl := (s.given.lookup .dbUrl).or (env.get? "DATABASE_URL")
    storage := s.given.lookup .storage
    initSchema := s.initSchema }

end CommandLine

end FeatureLock
