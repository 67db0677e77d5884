/-
Module: NginxFleet.Log
Layer: Log
Purpose: Log lines: a level, the activities inside which a line was written, the outermost first,
  and a message.
Main exports: LogLevel, Activity, LogEntry, LogEntry.text
-/

namespace NginxFleet

/-- How important a line is. -/
inductive LogLevel where
  | trace
  | debug
  | info
  | warn
  | error
deriving DecidableEq, Repr, Inhabited

namespace LogLevel

/-- The name of a level. -/
def name : LogLevel → String
  | .trace => "TRACE"
  | .debug => "DEBUG"
  | .info => "INFO"
  | .warn => "WARN"
  | .error => "ERROR"

/-- The place of a level in the order of importance. -/
def rank : LogLevel → Nat
  | .trace => 0
  | .debug => 1
  | .info => 2
  | .warn => 3
  | .error => 4

end LogLevel

/-- What was going on when a line was written: a name, and values that say with what. -/
structure Activity where
  name : String
  fields : List (String × String) := []
deriving DecidableEq, Repr, Inhabited

/-- The text of an activity in front of a line. -/
def Activity.text (activity : Activity) : String :=
  let fields := activity.fields.map fun field => field.1 ++ "=" ++ field.2
  activity.name ++
    (if fields.isEmpty then "" else "\x7b" ++ " ".intercalate fields ++ "\x7d") ++ ": "

/-- A log line. -/
structure LogEntry where
  level : LogLevel
  activities : List Activity := []
  message : String
deriving DecidableEq, Repr, Inhabited

namespace LogEntry

/-- The text of a line. -/
def text (entry : LogEntry) : String :=
  entry.level.name ++ " " ++ String.join (entry.activities.map Activity.text) ++ entry.message

/-- The same line written inside one more activity. -/
def inside (activity : Activity) (entry : LogEntry) : LogEntry :=
  { entry with activities := activity :: entry.activities }

end LogEntry

end NginxFleet
