/-
Module: NginxFleet.Config.Basic
Layer: Config
Purpose: The settings of the operator, read from variables: which namespace to watch, and how many
  seconds go by before an instance is looked at again after a success and after a failure. Settings
  that are unset have defaults; a number that cannot be read is an error which names the variable.
Main exports: Config, ConfigError, Config.ofLookup, Config.ofEnvironment
-/
import NginxFleet.Config.Environment
import NginxFleet.Number.Unsigned
import NginxFleet.Text.Blank

namespace NginxFleet

/-- The settings of the operator. -/
structure Config where
  /-- The namespace to watch, all if there is none. -/
  watchNamespace : Option String
  /-- The seconds after a success. -/
  resyncPeriod : UInt64
  /-- The seconds after a failure. -/
  errorRequeue : UInt64
deriving DecidableEq, Repr, Inhabited

/-- The variable that names the namespace to watch. -/
def watchNamespaceKey : String := "WATCH_NAMESPACE"

/-- The variable with the seconds after a success. -/
def resyncPeriodKey : String := "RESYNC_PERIOD_SECS"

/-- The variable with the seconds after a failure. -/
def errorRequeueKey : String := "ERROR_REQUEUE_SECS"

/-- The seconds after a success if none are set. -/
def defaultResyncPeriod : UInt64 := 300

/-- The seconds after a failure if none are set. -/
def defaultErrorRequeue : UInt64 := 60

/-- A variable whose value is no number of seconds. -/
structure ConfigError where
  key : String
  value : String
  fault : UnsignedFault
deriving DecidableEq, Repr, Inhabited

/-- The sentence for an error, with the value as it was given. -/
def ConfigError.message (error : ConfigError) : String :=
  error.key ++ " must be a number of seconds, got '" ++ error.value ++ "'"

/-- The number of seconds that a text spells, blanks around it aside. -/
def readSeconds (text : String) : Except UnsignedFault UInt64 :=
  (readUnsigned 64 (Text.trim text.toList)).map UInt64.ofNat

/-- The seconds in a variable, or a default if it is unset. -/
def secondsOr (default : UInt64) (key : String) :
    Option String → Except ConfigError UInt64
  | none => .ok default
  | some value => (readSeconds value).mapError fun fault => { key, value, fault }

/-- The namespace in a variable; one that is blank counts as none. -/
def namespaceOf : Option String → Option String
  | some value => if Text.trim value.toList = [] then none else some value
  | none => none

namespace Config

/-- The settings that variables give, the period after a success first. -/
def ofLookup (text? : String → Option String) : Except ConfigError Config :=
  match secondsOr defaultResyncPeriod resyncPeriodKey (text? resyncPeriodKey) with
  | .error error => .error error
  | .ok resyncPeriod =>
    match secondsOr defaultErrorRequeue errorRequeueKey (text? errorRequeueKey) with
    | .error error => .error error
    | .ok errorRequeue =>
      .ok { watchNamespace := namespaceOf (text? watchNamespaceKey), resyncPeriod, errorRequeue }

/-- The settings that an environment gives. -/
def ofEnvironment (environment : Environment) : Except ConfigError Config :=
  ofLookup environment.text?

end Config

end NginxFleet
