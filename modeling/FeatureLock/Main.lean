import FeatureLock.Host

/-!
# The command of the host

Reads the command line, the environment and the configuration file, begins to
log, and keeps the service available until the standard input ends.

Everything that is decided is decided in `FeatureLock.Host`; this module only
reads and prints.
-/

namespace FeatureLock.Entry

/-- The text that help prints. -/
def usage : String :=
  "Feature lock service host\n\n" ++
  "Usage: featgate [OPTIONS]\n\n" ++
  "Options:\n" ++
  "  -c, --config <CONFIG_FILE>   [default: " ++ CommandLine.defaultConfigFile ++ "]\n" ++
  "      --db-url <DATABASE_URL>  [env: DATABASE_URL]\n" ++
  "  -s, --storage <STORAGE>\n" ++
  "      --init-schema\n" ++
  "  -h, --help                   Print help"

/-- All environment variables, as far as they are text. -/
def environment : IO Environment := do
  let bytes ← IO.FS.readBinFile "/proc/self/environ"
  let texts := (bytes.toList.splitBy fun a b => a ≠ 0 && b ≠ 0).filterMap fun bs =>
    String.fromUTF8? ⟨bs.toArray⟩
  return texts.filterMap fun s =>
    match s.toList.span (· ≠ '=') with
    | (name, '=' :: value) => some (String.ofList name, String.ofList value)
    | _ => none

/-- The content of a configuration file, in the format that its name ends in. -/
def source? (path : String) : IO (Option Source) := do
  let found (make : String → Source) : IO (Option Source) := do
    try return some (make (← IO.FS.readFile path)) catch _ => return none
  if path.endsWith ".json" then found .json
  else if path.endsWith ".yml" || path.endsWith ".yaml" then found .yaml
  else return none

/-- Write the messages that the outputs of a run show of its log, from a line on. -/
def emit (r : Host.Run) (rustLog : Option String) (after : Nat) : IO Unit := do
  let some plan := r.plan | return
  for output in plan.outputs rustLog do
    for line in output.show (r.log.drop after) do
      let message := line.level.name ++ " " ++ line.target ++ ": " ++ line.message
      match output.file with
      | none => IO.println message
      | some file =>
        IO.FS.withFile (plan.dir ++ "/" ++ file) .append fun h => h.putStrLn message

/-- Wait until the standard input ends. -/
partial def waitForEnd (input : IO.FS.Stream) : IO Unit := do
  if (← input.getLine).isEmpty then return else waitForEnd input

/-- The exit code of a run, after its log was written. -/
def carryOut (words : List String) : IO UInt32 := do
  let env ← environment
  match CommandLine.read env words with
  | .error .displayHelp =>
    IO.println usage
    return 0
  | .error u =>
    IO.eprintln usage
    return (Host.usageExit u).toUInt32
  | .ok cl =>
    match Configuration.load cl env (← source? cl.configFile) with
    | .error _ =>
      IO.eprintln "the configuration file cannot be read"
      return 1
    | .ok c =>
      if c.logPlan.files then
        try IO.FS.createDirAll c.logPlan.dir catch _ => return 1
      let rustLog := env.get? "RUST_LOG"
      let r := Host.launch c
      emit r rustLog 0
      if r.waited then
        waitForEnd (← IO.getStdin)
        emit (r.stop .interrupt) rustLog r.log.length
      return r.exitCode.toUInt32

end FeatureLock.Entry

/-- Run the host. -/
def main (words : List String) : IO UInt32 :=
  FeatureLock.Entry.carryOut words
