import FeatureLock.Logging.Level

/-!
# What is logged where

Log lines go to the console and to files: one file for all components, and one
each for the lock service and for its stores.

## Main Definitions

- `LogPlan`: which outputs there are, and the levels up to which they log
- `Component`: a file for the lines of some targets
-/

namespace FeatureLock

/-- When a new log file is begun. -/
inductive Rotation where
  | daily
  | hourly
  | never
  deriving DecidableEq

/-- The name of a rotation. -/
def Rotation.name : Rotation → String
  | daily => "Daily"
  | hourly => "Hourly"
  | never => "Never"

/-- Which outputs a log has, and up to which levels they log. -/
structure LogPlan where
  /-- the directory of the log files -/
  dir : String
  console : Bool
  consoleLevel : Level
  files : Bool
  fileLevel : Level
  rotation : Rotation
  deriving DecidableEq

/-- A log file for the lines of some targets. -/
structure Component where
  file : String
  /-- what the targets begin with -/
  fronts : List String

/-- The log file of all components. -/
def rootLogFile : String := "featgate.log"

/-- The log files of single components. -/
def components : List Component :=
  [⟨"feature.log", ["featgate_core"]⟩,
    ⟨"persistence.log", ["featgate_persistence", "sea_orm", "sqlx"]⟩]

end FeatureLock
