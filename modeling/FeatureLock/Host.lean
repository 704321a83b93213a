import FeatureLock.Config.Configuration
import FeatureLock.Logging.Filter
import FeatureLock.Store
import FeatureLock.Store.Address

/-!
# The host of the lock service

The host reads its command line, loads its configuration, begins to log, connects
the configured store and keeps the lock service available until a signal stops
it.

## Main Definitions

- `Configuration.database`, `Configuration.connect`: the database of a configuration,
  and its pool of connections
- `App`, `App.build`: the store and the service, and what building them logs
- `Host.Run`, `Host.start`, `Host.run`: a run up to where it waits, and up to the
  signal that stops it

## Design Notes

A database starts without any table, for it is kept in memory or its file is new.
-/

namespace FeatureLock

/-! ### Building -/

/-- Why the host did not start. -/
inductive StartFault where
  | setting (fault : SettingFault)
  | connection
  deriving DecidableEq

/-- The database of a configuration.  The first connection is made at once, so a pool without room
for it, or without time to wait for it, fails. -/
def Configuration.database (c : Configuration) : Except StartFault DataFile :=
  match c.dbUrl with
  | .error e => .error (.setting e)
  | .ok url =>
    match openDatabase? url with
    | none => .error .connection
    | some f => if c.pool.max = 0 ∨ c.pool.acquire = 0 then .error .connection else .ok f

/-- **A pool of connections**, or why there is none. -/
def Configuration.connect (c : Configuration) : Except StartFault PoolOptions :=
  c.database.map fun _ => c.pool

/-- The store and the service of a host. -/
structure App where
  store : Store
  service : Service

namespace App

/-- A line of the part that builds the host. -/
def line (message : String) (fields : List String) : LogLine :=
  ⟨"featgate_server::model::app_state", .info, message, fields⟩

/-- The line of a pool of connections. -/
def poolLine : LogLine :=
  ⟨"featgate_server::model::config", .info, "Database connection pool configured",
    ["max_connections", "min_connections", "connect_timeout", "idle_timeout", "max_lifetime",
      "sqlx_logging"]⟩

/-- The lines of a database whose schema is ensured: one of the store, one of the host. -/
def schemaLines : List LogLine :=
  [⟨"featgate_persistence::schema", .info, "Feature mapping schema ensured", ["backend"]⟩,
    line "Feature mapping schema ensured" []]

/-- A database whose schema was ensured.  What is kept in memory goes with its last connection, and
a pool whose connections have no lifetime gives up each of them after its first use. -/
def ensured (c : Configuration) (f : DataFile) : Database :=
  if c.pool.lifetime = 0 ∧ !f.isLasting then .bare else Database.bare.ensureSchema

/-- The store of a mode, and what connecting it logs. -/
def connect (c : Configuration) : StorageMode → Except StartFault Store × List LogLine
  | .memory => (.ok (.memory .empty), [])
  | .externalDb =>
    match c.dbUrl with
    | .error e => (.error (.setting e), [])
    | .ok _ =>
      match c.database with
      | .error e => (.error e, [poolLine])
      | .ok f =>
        if !c.initSchema then (.ok (.database .bare), [poolLine])
        else if f.readOnly then (.error .connection, [poolLine])
        else (.ok (.database (ensured c f)), poolLine :: schemaLines)

/-- The service of a configuration over a store. -/
def serve (c : Configuration) (store : Store) : Except StartFault App × List LogLine :=
  match c.reasonCatalog with
  | .error e => (.error (.setting e), [])
  | .ok catalog =>
    (.ok ⟨store, ⟨catalog, c.defaultLock⟩⟩,
      [line "Feature lock service configured" ["reason_codes", "default_lock_duration_ms"]])

/-- **Connect the configured store and set up the service**, with the log lines of it: first the
storage mode, then the store, then the reasons.  The first fault ends it. -/
def build (c : Configuration) : Except StartFault App × List LogLine :=
  match c.storageMode with
  | .error e => (.error (.setting e), [])
  | .ok mode =>
    let modeLine := line ("Persistence mode: " ++ mode.name) []
    match connect c mode with
    | (.error e, log) => (.error e, modeLine :: log)
    | (.ok store, log) =>
      let (app, more) := serve c store
      (app, modeLine :: log ++ more)

/-- The end of the text that shows an app. -/
def describeTail (app : App) : String :=
  "persistence: " ++ app.store.mode.variant ++
    ", feature_lock_service: \"<FeatureLockService>\" \x7d"

end App

/-! ### Running -/

/-- What stops a host. -/
inductive Signal where
  | terminate
  | interrupt
  deriving DecidableEq

namespace Host

/-- A run of the host. -/
structure Run where
  exitCode : Nat
  /-- whether it came to wait for a signal -/
  waited : Bool
  /-- the plan of its log, if it came to log anything -/
  plan : Option LogPlan
  log : List LogLine
  deriving DecidableEq

/-- The exit code for a command line that is not carried out. -/
def usageExit : UsageFault → Nat
  | .displayHelp => 0
  | _ => 2

/-- A run that ends before it logs anything. -/
def Run.refused (exitCode : Nat) : Run :=
  ⟨exitCode, false, none, []⟩

/-- A line of the host itself. -/
def line (message : String) (fields : List String) : LogLine :=
  ⟨"featgate", .info, message, fields⟩

/-- The line for a signal. -/
def signalLine : Signal → LogLine
  | .terminate =>
    ⟨"featgate_server::startup::shutdown", .info,
      "Received SIGTERM, initiating graceful shutdown...", []⟩
  | .interrupt =>
    ⟨"featgate_server::startup::shutdown", .info,
      "Received Ctrl+C, initiating graceful shutdown...", []⟩

/-- A run from its configuration on, up to where it waits for a signal or fails. -/
def launch (c : Configuration) : Run :=
  match App.build c with
  | (.error _, log) => ⟨1, false, some c.logPlan, c.logPlan.opening ++ log⟩
  | (.ok _, log) =>
    ⟨0, true, some c.logPlan,
      c.logPlan.opening ++ log ++ [line "Feature lock service registered" ["storage_mode"]]⟩

/-- A run from its command line on, up to where it waits for a signal or fails: with the variables,
the configuration files by their paths, and the plain files where it runs. -/
def start (words : List String) (env : Environment) (files : String → Option Source)
    (plainFiles : List String) : Run :=
  match CommandLine.read env words with
  | .error u => .refused (usageExit u)
  | .ok cl =>
    match Configuration.load cl env (files cl.configFile) with
    | .error _ => .refused 1
    | .ok c =>
      if c.logPlan.files ∧ ¬ canMakeDir plainFiles c.logPlan.dir then .refused 1 else launch c

/-- A run that waits, stopped by a signal; a run that does not wait is over. -/
def Run.stop (r : Run) (signal : Signal) : Run :=
  if r.waited then
    { r with log := r.log ++ [signalLine signal, line "Feature lock service deregistered" []] }
  else r

/-- **A run of the host** from its command line to a signal. -/
def run (words : List String) (env : Environment) (files : String → Option Source)
    (plainFiles : List String) (signal : Signal) : Run :=
  (start words env files plainFiles).stop signal

/-- The messages of a run that an output of its plan shows. -/
def Run.shown (r : Run) (rustLog : Option String) (file : Option String) : List String :=
  match r.plan with
  | none => []
  | some plan =>
    ((plan.outputs rustLog).filter (·.file = file)).flatMap fun o =>
      (o.show r.log).map (·.message)

end Host

end FeatureLock
