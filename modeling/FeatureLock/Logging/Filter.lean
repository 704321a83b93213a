import FeatureLock.Logging.Pattern
import FeatureLock.Logging.Plan
import FeatureLock.Number.Binary64
import FeatureLock.Text.Percent

/-!
# Which log lines reach an output

## Main Definitions

- `LogLine`: a line with its target, its level and the names of its fields
- `Directive`: how far some lines are logged
- `LogFilter`: how far each line is logged, the closest directive deciding;
  `LogFilter.read?` reads it from text
- `Output`, `LogPlan.outputs`: the outputs of a plan, each with the lines it takes
-/

namespace FeatureLock

/-- A line of a log. -/
structure LogLine where
  target : String
  level : Level
  message : String
  /-- the names of its fields, apart from its message -/
  fields : List String
  deriving DecidableEq

/-- Whether a line has a field.  Its message is one. -/
def LogLine.hasField (l : LogLine) (name : String) : Bool :=
  name = "message" || name ∈ l.fields

/-- How far some lines are logged: up to a rank, and not at all for zero. -/
structure Directive where
  /-- what their targets begin with; nothing for all targets -/
  front : Option String
  /-- the field that they have -/
  field : Option String
  limit : Nat
  deriving DecidableEq

/-- How far each line is logged. -/
abbrev LogFilter := List Directive

/-- Whether a target begins with a front. -/
def beginsWith (front target : String) : Bool :=
  front.toList.isPrefixOf target.toList

namespace Directive

/-- Whether a directive is about a line. -/
def covers (d : Directive) (l : LogLine) : Bool :=
  d.front.all (beginsWith · l.target) && d.field.all l.hasField

/-- How closely a directive describes targets: zero for all targets. -/
def closeness (d : Directive) : Nat :=
  match d.front with
  | none => 0
  | some s => s.utf8ByteSize + 1

/-- **Whether a directive is at least as close to its lines as another**: by its front, then by
whether it names a field, then by the order of these names. -/
def isAsClose (d e : Directive) : Bool :=
  if d.closeness = e.closeness then
    match d.field, e.field with
    | _, none => true
    | none, some _ => false
    | some a, some b => b ≤ a
  else e.closeness < d.closeness

end Directive

namespace LogFilter

/-- One limit for all lines. -/
def upTo (l : Level) : LogFilter :=
  [⟨none, none, l.rank⟩]

/-- **How far a line is logged.**  The closest directive decides, of equally close ones the last; a
line that no directive covers is not logged. -/
def limit (f : LogFilter) (l : LogLine) : Nat :=
  let best := (f.filter (·.covers l)).foldl
    (fun (best : Option Directive) d => if best.all d.isAsClose then some d else best) none
  best.elim 0 Directive.limit

/-- Whether a line passes. -/
def admits (f : LogFilter) (l : LogLine) : Bool :=
  l.level.rank ≤ f.limit l

/-! ### Filters as text -/

/-- A limit by the name of a level in any case, by `off`, or by a number up to five. -/
def readLimit? (s : String) : Option Nat :=
  match (Numeral.readUnsigned? s).filter (· ≤ 5) with
  | some n => some n
  | none =>
    if s.toUpper = "OFF" then some 0
    else (Level.all.find? fun l => s.toUpper = l.name).map Level.rank

/-- The characters that a directive may begin with, apart from a bracket. -/
def mayBegin (c : Char) : Bool :=
  Text.isAlphanumeric c || c ∈ ['_', ':', '-']

/-- The number of bytes of some characters. -/
def byteCount (cs : List Char) : Nat :=
  cs.foldl (fun n c => n + c.utf8Size) 0

/-- Split characters after a number of bytes, unless that is within a character. -/
def splitBytes? : Nat → List Char → Option (List Char × List Char)
  | 0, cs => some ([], cs)
  | _ + 1, [] => none
  | n + 1, c :: cs =>
    if c.utf8Size ≤ n + 1 then
      (splitBytes? (n + 1 - c.utf8Size) cs).map fun (front, rest) => (c :: front, rest)
    else none
termination_by _ cs => cs.length

/-- The characters of so many bytes behind the first bytes. -/
def cut? (cs : List Char) (start length : Nat) : Option (List Char) := do
  let (_, rest) ← splitBytes? start cs
  let (part, _) ← splitBytes? length rest
  some part

/-- The limit that stands in a directive from a byte on; nothing there is no limit at all. -/
def limitFrom? (cs : List Char) (n : Nat) : Option Nat := do
  let (_, rest) ← splitBytes? n cs
  if rest = [] then some 5 else readLimit? (String.ofList rest)

/-- The name of a field that is to be there, or nothing if its value counts, too.  What describes
the value is a number or a pattern, up to a second equals sign. -/
def readField? (cs : List Char) : Option (Option String) :=
  let name := cs.takeWhile (· ≠ '=')
  match cs.drop name.length with
  | [] => some (some (String.ofList name))
  | _ :: rest =>
    let value := String.ofList (rest.takeWhile (· ≠ '='))
    if (Binary64.read? value).isSome || isPattern value then some none else none

/-- A span in brackets: how many bytes its name has, and how many those of the field in braces
behind the name.  Answers the characters behind the closing bracket. -/
def passSpan? (cs : List Char) : Option (Nat × Option Nat × List Char) :=
  let name := cs.takeWhile (· ∉ [']', '\x7b'])
  match cs.drop name.length with
  | ']' :: rest => some (byteCount name, none, rest)
  | _ :: rest =>
    let field := rest.takeWhile (· ≠ '\x7d')
    match rest.drop field.length with
    | '\x7d' :: ']' :: rest =>
      if field = [] then none else some (byteCount name, some (byteCount field), rest)
    | _ => none
  | [] => none

/-- The limit behind a span, if there is one. -/
def limitBehind? (cs bare rest : List Char) : Option Nat :=
  match rest with
  | [] => some 5
  | '=' :: limit => limitFrom? cs (byteCount bare - byteCount limit)
  | _ => none

/-- **A directive**: a limit for all lines, or a front with or without a limit, perhaps with a field
that the lines have.  Without a limit, lines are logged in full.  A directive about a span or about
the value of a field is well-formed, but no line is within a span.

White space in front of a directive is skipped to find its parts, and still counts as bytes when
they are cut out. -/
def readDirective? (cs : List Char) : Option (Option Directive) :=
  let bare := Text.trimChars cs
  let head := bare.takeWhile (· ∉ ['=', '['])
  let length := byteCount head
  let mayStand : Bool := head.head?.any mayBegin
  match bare.drop head.length with
  | [] =>
    if !mayStand then none
    else
      let s := String.ofList cs
      some (some ((readLimit? s).elim ⟨some s, none, 5⟩ fun n => ⟨none, none, n⟩))
  | '=' :: _ => do
    if !mayStand then none
    let front ← cut? cs 0 length
    let limit ← limitFrom? cs (length + 1)
    some (some ⟨some (String.ofList front), none, limit⟩)
  | _ :: span => do
    if !head.isEmpty && !mayStand then none
    let front ← cut? cs 0 length
    let (nameLength, fieldLength, rest) ← passSpan? span
    let field ← match fieldLength with
      | none => some none
      | some n => do readField? (← cut? cs (length + nameLength + 2) n)
    let limit ← limitBehind? cs bare rest
    let front := if head.isEmpty then none else some (String.ofList front)
    some (field.bind fun name =>
      if nameLength = 0 then some ⟨front, some name, limit⟩ else none)

/-- **The filter that a text describes**, directives between commas; nothing if one of them is
none. -/
def read? (s : String) : Option LogFilter :=
  ((Text.splitAt ',' s.toList).mapM readDirective?).map (·.filterMap id)

end LogFilter

/-! ### Outputs -/

/-- The lines that an output takes. -/
structure Output where
  /-- the name of its file; nothing for the console -/
  file : Option String
  takes : LogLine → Bool

/-- What an output shows of a log. -/
def Output.show (o : Output) (log : List LogLine) : List LogLine :=
  log.filter o.takes

namespace LogPlan

/-- The filter of the console and of the file of all components: the one that `RUST_LOG` describes,
or all targets up to a level. -/
def mainFilter (rustLog : Option String) (l : Level) : LogFilter :=
  (rustLog.bind LogFilter.read?).getD (.upTo l)

/-- Whether a line is for the file of a component. -/
def componentTakes (c : Component) (l : Level) (line : LogLine) : Bool :=
  c.fronts.any (beginsWith · line.target) && decide (line.level.rank ≤ l.rank)

/-- **The outputs of a plan.**  `RUST_LOG` decides for the console and the file of all components;
the files of single components keep to their level. -/
def outputs (plan : LogPlan) (rustLog : Option String) : List Output :=
  (if plan.console then
    [⟨none, (mainFilter rustLog plan.consoleLevel).admits⟩] else []) ++
  (if plan.files then
    ⟨some rootLogFile, (mainFilter rustLog plan.fileLevel).admits⟩ ::
      components.map fun c => ⟨some c.file, componentTakes c plan.fileLevel⟩ else [])

/-- What is logged when logging begins: that there are files, if there are. -/
def opening (plan : LogPlan) : List LogLine :=
  if plan.files then
    [⟨"featgate_server::startup::logging", .info, "File logging initialized",
      ["log_dir", "component_files"]⟩] else []

/-- The failure of a second beginning. -/
def alreadyLogging : String :=
  "Failed to initialize logging: a global default trace dispatcher has already been set"

end LogPlan

/-! ### The log directory -/

/-- The steps of a file path, without those that lead nowhere. -/
def pathSteps (path : String) : List String :=
  ((path.toList.splitBy fun a b => a ≠ '/' && b ≠ '/').map String.ofList).filter fun s =>
    s ≠ "/" ∧ s ≠ "."

/-- Follow the steps of a path, one up for two points. -/
def followSteps (steps : List String) : List String :=
  steps.foldl (fun at' s => if s = ".." then at'.dropLast else at' ++ [s]) []

/-- The places that the steps of a path pass through. -/
def passedPlaces (path : String) : List (List String) :=
  let steps := pathSteps path
  (List.range (steps.length + 1)).map fun n => followSteps (steps.take n)

/-- How many bytes a name within a path may have. -/
def maxNameLength : Nat := 255

/-- How many bytes a path may have. -/
def maxPathLength : Nat := 4095

/-- Whether a path can be that of a file at all. -/
def isPath (path : String) : Bool :=
  '\x00' ∉ path.toList && path.utf8ByteSize ≤ maxPathLength &&
    (pathSteps path).all fun s => s.utf8ByteSize ≤ maxNameLength

/-- **Whether a directory can be made**: its names are short enough, and no place on the way to it
is a plain file. -/
def canMakeDir (plainFiles : List String) (dir : String) : Bool :=
  isPath dir && (passedPlaces dir).all fun place => plainFiles.all fun f => pathSteps f ≠ place

/-- Whether a path leads to a plain file.  Nothing may come behind the name of the file, not even a
slash. -/
def isPlainFile (plainFiles : List String) (path : String) : Bool :=
  let places := passedPlaces path
  let isFile (place : List String) : Bool := plainFiles.any fun f => pathSteps f = place
  let lastName := (path.toList.reverse.takeWhile (· ≠ '/')).reverse
  isPath path && lastName ≠ [] && lastName ≠ ['.'] && places.getLast?.any isFile &&
    !places.dropLast.any isFile

end FeatureLock
