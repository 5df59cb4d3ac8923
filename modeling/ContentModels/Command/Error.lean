import ContentModels.Run.Error

/-!
# Why a command fails
-/

namespace ContentModels

/-- Why there is no configuration. -/
inductive ConfigError where
  | unreadable (path : Path) (fault : IoFault)
  /-- The file is no configuration. -/
  | invalid (path : Path) (reason : String)
  /-- A value makes no sense. -/
  | value (field reason : String)
  deriving DecidableEq, Repr

def ConfigError.message : ConfigError → String
  | unreadable path fault => s!"Failed to read config file {path}: {fault.message}"
  | invalid path reason => s!"Invalid TOML in {path}: {reason}"
  | value field reason => s!"Invalid value for '{field}': {reason}"

/-- Why files cannot be watched. -/
inductive WatchError where
  | init (reason : String)
  | path (path : Path) (reason : String)
  deriving DecidableEq, Repr

def WatchError.message : WatchError → String
  | init reason => s!"Failed to initialize file watcher: {reason}"
  | .path dir reason => s!"Failed to watch {dir}: {reason}"

/-- Why a command fails. -/
inductive CommandError where
  | run (e : RunError)
  | config (e : ConfigError)
  | watch (e : WatchError)
  | store (e : StoreError)
  /-- Something that was checked is not as it should be. -/
  | validation (reason : String)
  | io (fault : IoFault)
  deriving DecidableEq, Repr

namespace CommandError

def message : CommandError → String
  | run e => e.message
  | config e => s!"Failed to load configuration: {e.message}"
  | watch e => s!"Watch error: {e.message}"
  | store e => e.message
  | validation reason => s!"Validation failed: {reason}"
  | io fault => s!"IO error: {fault.message}"

/-- The exit code of a command that fails. Models that are out of date have one of their own. -/
def exitCode : CommandError → Nat
  | validation _ => 2
  | _ => 1

end CommandError

end ContentModels
