import RelayPool.Text.Blank
import RelayPool.Text.Quoted

/-!
# Log records

What the library reports while it works.  Records are data: an operation
returns them in the order in which they were made.
-/

namespace RelayPool.Log

/-- How severe a record is. -/
inductive Level
  | debug
  | info
  | warning
  | error
  | critical
  deriving DecidableEq, Repr

/-- The numbers by which levels are ordered. -/
def Level.number : Level → Nat
  | .debug => 10
  | .info => 20
  | .warning => 30
  | .error => 40
  | .critical => 50

/-- The name of a level in a log line. -/
def Level.label : Level → String
  | .debug => "DEBUG"
  | .info => "INFO"
  | .warning => "WARNING"
  | .error => "ERROR"
  | .critical => "CRITICAL"

/-- The levels by the names that a configuration gives them. -/
def levelNames : List (String × Level) :=
  [("debug", .debug), ("info", .info), ("warn", .warning), ("warning", .warning),
    ("error", .error), ("critical", .critical)]

/-- The level that a configured name chooses.  White space around the name and
the case of its letters do not matter; as the names are ASCII and none holds a
`k`, only ASCII letters have to be lowered. -/
def level? (name : String) : Option Level :=
  levelNames.lookup (String.ofList ((Text.trimmed name.toList).map Char.toLower))

/-- The sentence about a name that chooses no level. -/
def unknownLevelMessage (name : String) : String :=
  "unknown log level " ++ Text.quoted name

/-- The part of the library that made a record. -/
inductive Source
  | config
  | nodeList
  | commandLine
  deriving DecidableEq, Repr

/-- The name of a part of the library in a log line. -/
def Source.label : Source → String
  | .config => "proxypool.config"
  | .nodeList => "proxypool.nodes_file"
  | .commandLine => "proxypool.cli"

/-- One report. -/
structure Record where
  source : Source
  level : Level
  message : String
  deriving DecidableEq, Repr

/-- A record as a line, with the time at which it was written. -/
def Record.line (time : String) (record : Record) : String :=
  time ++ " [" ++ record.level.label ++ "] " ++ record.source.label ++ ": " ++
    record.message ++ "\n"

end RelayPool.Log
