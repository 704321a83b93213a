import FeatureLock.Config.CommandLine
import FeatureLock.Config.Setting
import FeatureLock.Config.Source
import FeatureLock.Lock.Service
import FeatureLock.Logging.Plan
import FeatureLock.StorageMode

/-!
# The configuration of a host

Settings come from a configuration file, from environment variables and from the
command line; the later source wins, setting by setting.

## Main Definitions

- `Configuration`, `Configuration.ofLayers`, `Configuration.load`
- `storageMode`, `initSchema`, `defaultLock`, `reasonCatalog`, `logPlan`,
  `dbUrl`, `pool`: the settings of the host

## Design Notes

A setting that is missing has a default.  Most settings fall back to it also when
they cannot be read; the storage mode, the reasons and the database address do
not.
-/

namespace FeatureLock

/-- The settings of a host, and the variables that it was started with. -/
structure Configuration where
  tree : Value
  env : Environment

/-- Why no configuration could be loaded. -/
inductive LoadFault where
  | usage (fault : UsageFault)
  | unreadableFile
  deriving DecidableEq

/-- The size and the time limits of a pool of database connections, times in seconds. -/
structure PoolOptions where
  max : Nat
  min : Nat
  acquire : Nat
  idle : Nat
  lifetime : Nat
  deriving DecidableEq

namespace Configuration

/-! ### Loading -/

/-- Where the database is. -/
def dbUrlPath : Path := .ofNames ["db", "url"]

/-- Where features are kept. -/
def storagePath : Path := .ofNames ["featgate", "storage", "mode"]

/-- Whether the table is created at the start. -/
def initSchemaPath : Path := .ofNames ["featgate", "schema", "init"]

/-- Lay the settings of a source over those before; its keys are written paths. -/
def addLayer (tree : Value) (layer : Entries) : Value :=
  layer.foldl (fun tree e => tree.overlay (.ofKey e.1) e.2) tree

/-- The settings that a command line makes. -/
def overrides (cl : CommandLine) : List (Path × Value) :=
  (cl.dbUrl.map fun s => (dbUrlPath, .text s)).toList ++
    (cl.storage.map fun s => (storagePath, .text s)).toList ++
    if cl.initSchema then [(initSchemaPath, .bool true)] else []

/-- **The configuration of a file's settings, the variables and the command line**, the later of
them over the earlier. -/
def ofLayers (file : Entries) (env : Environment) (cl : CommandLine) : Configuration where
  tree :=
    (overrides cl).foldl (fun tree o => tree.overlay o.1 o.2)
      (addLayer (addLayer (.table []) file) env.layer)
  env := env

/-- The configuration with the file that the command line names; a file that is not there has no
settings. -/
def load (cl : CommandLine) (env : Environment) : Option Source → Except LoadFault Configuration
  | none => .ok (ofLayers [] env cl)
  | some source =>
    match source.entries? with
    | some file => .ok (ofLayers file env cl)
    | none => .error .unreadableFile

/-! ### Settings of a type -/

/-- A setting as text. -/
def text (c : Configuration) (path : Path) : Except SettingFault String := do
  (← c.tree.setting path).asText

/-- A setting as an integer, if it is there and is one. -/
def int? (c : Configuration) (path : Path) : Option Int :=
  (c.tree.get? path).bind Value.asInt?

/-- A setting as a truth value, or a default. -/
def flag (c : Configuration) (path : Path) (default : Bool) : Bool :=
  ((c.tree.get? path).bind Value.asFlag?).getD default

/-- A setting as a natural number below a bound, or a default. -/
def count (c : Configuration) (path : Path) (bound default : Nat) : Nat :=
  match c.int? path with
  | some n => if 0 ≤ n ∧ n < bound then n.toNat else default
  | none => default

/-! ### The settings of the host -/

/-- **Where features are kept**: in a database unless something else is set. -/
def storageMode (c : Configuration) : Except SettingFault StorageMode :=
  match c.text storagePath with
  | .ok s =>
    match StorageMode.read? s with
    | some m => .ok m
    | none => .error (.message (StorageMode.invalidMessage s))
  | .error (.missing _) => .ok .externalDb
  | .error e => .error e

/-- Whether the table is created at the start. -/
def initSchema (c : Configuration) : Bool :=
  c.flag initSchemaPath false

/-- Where the default duration of locks is set. -/
def defaultLockPath : Path := .ofNames ["featgate", "lock", "default_duration_ms"]

/-- **The default duration of locks**: a positive number of milliseconds, or five minutes. -/
def defaultLock (c : Configuration) : Duration :=
  match c.int? defaultLockPath with
  | some n => if 0 < n then .ofMillis (UInt64.ofNat n.toNat) else standardDuration
  | none => standardDuration

/-- Where the reasons are listed. -/
def reasonsPath : Path := .ofNames ["featgate", "lock", "reasons"]

/-- A reason in the list: its code and its message, in a table or in a list. -/
def reason : Value → Except SettingFault (String × String)
  | .table es => do
    let code ← (es.lookup "code").mapM Value.asText
    let message ← (es.lookup "message").mapM Value.asText
    match code, message with
    | some code, some message => .ok (code, message)
    | _, _ => .error .wrongEntry
  | .list (code :: rest) => do
    let code ← code.asText
    match rest with
    | message :: _ => return (code, ← message.asText)
    | [] => .error .wrongEntry
  | _ => .error .wrongEntry

/-- **The configured reasons**, all of them or none: the first entry that is no reason is the
fault.  Without a list there are no reasons. -/
def reasonCatalog (c : Configuration) : Except SettingFault Catalog :=
  match c.tree.get? reasonsPath with
  | none => .ok .empty
  | some (.list vs) => do return .ofList (← vs.mapM reason)
  | some _ => .error .wrongEntry

/-- The directory of log files unless one is set: the one of a variable, or one at home. -/
def defaultLogDir (env : Environment) : String :=
  (env.get? "FEATGATE_LOG_DIR").getD ((env.get? "HOME").getD "/tmp" ++ "/featgate/logs")

/-- **What is logged where.**  One level is set for all outputs; one that cannot be read is
`info`. -/
def logPlan (c : Configuration) : LogPlan :=
  let level := match c.text (.ofNames ["featgate", "logs", "level"]) with
    | .ok s => (Level.read? s).getD .info
    | .error _ => .info
  { dir := match c.text (.ofNames ["featgate", "logs", "path"]) with
      | .ok s => s
      | .error _ => defaultLogDir c.env
    console := c.flag (.ofNames ["featgate", "logs", "console"]) true
    consoleLevel := level
    files := c.flag (.ofNames ["featgate", "logs", "file"]) true
    fileLevel := level
    rotation := .daily }

/-- Where the database is. -/
def dbUrl (c : Configuration) : Except SettingFault String :=
  c.text dbUrlPath

/-- The bound of numbers of connections. -/
def sizeBound : Nat := 4294967296

/-- The bound of times in seconds. -/
def timeBound : Nat := 18446744073709551616

/-- The path of a setting of the connection pool. -/
def poolPath (name : String) : Path :=
  .ofNames ["db", "pool", "config", name]

/-- **The connection pool.**  The time to wait for a connection is that of the first one; the time
limit of a single attempt has no effect on it. -/
def pool (c : Configuration) : PoolOptions where
  max := c.count (poolPath "maximumPoolSize") sizeBound 20
  min := c.count (poolPath "minimumPoolSize") sizeBound 1
  acquire := c.count (poolPath "initializationFailTimeout") timeBound 8
  idle := c.count (poolPath "idleTimeout") timeBound 10
  lifetime := c.count (poolPath "maxLifetime") timeBound 1800

end Configuration

end FeatureLock
