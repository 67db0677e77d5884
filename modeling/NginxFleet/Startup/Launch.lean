/-
Module: NginxFleet.Startup.Launch
Layer: Startup
Purpose: How the operator starts: it reads its settings and says so in the log. The level from which
  on log lines are shown is a setting of its own; messages are shown so that they are safe on a
  terminal. Without a cluster the start ends here.
Main exports: LaunchError, LaunchError.text, prepare, LogFilter, launch
-/
import NginxFleet.Config.Basic
import NginxFleet.Log
import NginxFleet.Text.Terminal

namespace NginxFleet

/-- The text of a number of seconds. -/
def secondsText (seconds : UInt64) : String :=
  if seconds = 0 then "0ns" else toString seconds.toNat ++ "s"

/-- Why the operator does not start. -/
inductive LaunchError where
  | config (error : ConfigError)
  | noCluster
deriving DecidableEq, Repr, Inhabited

/-- The text for an error, with its cause on a line of its own. -/
def LaunchError.text : LaunchError → String
  | .config error =>
    "Error: " ++ error.message ++ "\n\nCaused by:\n    " ++ error.fault.message
  | .noCluster => "Error: Failed to create Kubernetes client"

/-- The log line with the settings. -/
def Config.entry (config : Config) : LogEntry where
  level := .info
  message := "Configuration loaded: watch_namespace=" ++ config.watchNamespace.getD "<all>" ++
    ", resync_period=" ++ secondsText config.resyncPeriod

/-- The first log line. -/
def startEntry : LogEntry where
  level := .info
  message := "Starting Nginx operator"

/-- The settings, and the log lines up to when they are known. -/
def prepare (environment : Environment) : List LogEntry × Except ConfigError Config :=
  match Config.ofEnvironment environment with
  | .error error => ([startEntry], .error error)
  | .ok config => ([startEntry, config.entry], .ok config)

/-- The least level of the log lines that are shown, or none are. -/
inductive LogFilter where
  | off
  | from (level : LogLevel)
deriving DecidableEq, Repr, Inhabited

namespace LogFilter

/-- The variable with the filter. -/
def key : String := "RUST_LOG"

/-- The filter of a name, by default from the level of information on. -/
def ofText? : Option String → LogFilter
  | some "off" => .off
  | some "error" => .from .error
  | some "warn" => .from .warn
  | some "debug" => .from .debug
  | some "trace" => .from .trace
  | _ => .from .info

/-- Whether a line is shown. -/
def shows : LogFilter → LogEntry → Bool
  | .off, _ => false
  | .from level, entry => level.rank ≤ entry.level.rank

end LogFilter

/-- A log line as it is shown on a terminal. -/
def LogEntry.shown (entry : LogEntry) : LogEntry :=
  { entry with message := Text.shown entry.message }

/-- What is seen of a start without a cluster: the log lines that are shown, and the error. -/
def launch (environment : Environment) : List LogEntry × LaunchError :=
  let logFilter := LogFilter.ofText? (environment.text? LogFilter.key)
  let (entries, config) := prepare environment
  ((entries.filter logFilter.shows).map LogEntry.shown,
    match config with
    | .error error => .config error
    | .ok _ => .noCluster)

end NginxFleet
