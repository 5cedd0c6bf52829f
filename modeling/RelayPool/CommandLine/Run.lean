import RelayPool.CommandLine.Help
import RelayPool.Config.Load
import RelayPool.Config.Summary
import RelayPool.Log.Journal

/-!
# Runs

What a run of the program prints and how it ends.  Log records are kept from
the level on that the run asks for; once a configuration is loaded its own
log level takes over, unless debugging was asked for.
-/

namespace RelayPool.CommandLine

open Log (Event Level Record)

/-- Why a run is broken off without an exit code. -/
inductive Escape
  | load (fault : Config.LoadFault)
  | tooManyDigits

/-- The sentence on why a run is broken off. -/
def Escape.message : Escape → String
  | .load fault => fault.message
  | .tooManyDigits => Number.digitLimitMessage

/-- A run: the exit code or why it was broken off, the text printed, the log
records kept, and a report on wrong usage. -/
structure Outcome where
  exit : Except Escape Nat
  output : String
  records : List Record
  report : String

/-- The exit code for a fault in the configuration. -/
def configExit : Nat := 2

/-- Lines of text, each with its line feed. -/
def printed (lines : List String) : String :=
  String.join (lines.map (· ++ "\n"))

/-- A text filled up with spaces on its right. -/
def padRight (width : Nat) (text : String) : String :=
  text ++ String.ofList (List.replicate (width - text.length) ' ')

/-- A text filled up with spaces on its left. -/
def padLeft (width : Nat) (text : String) : String :=
  String.ofList (List.replicate (width - text.length) ' ') ++ text

/-- The width of the column of names. -/
def nameWidth (nodes : List Node) : Nat :=
  nodes.foldl (fun width node => max width node.name.length) "NAME".length

/-- A line of the table of nodes. -/
def tableLine (width : Nat) (name port uri : String) : String :=
  padRight width name ++ "  " ++ padLeft 5 port ++ "  " ++ uri

/-- The table of nodes: a header and a line for each node. -/
def tableLines (nodes : List Node) : List String :=
  let width := nameWidth nodes
  tableLine width "NAME" "PORT" "URI" ::
    nodes.map fun node =>
      tableLine width node.name (Number.intText node.port) node.uri

/-- What a command prints on a configuration, unless it cannot be shown. -/
def commandLines? (config : Config) : Command → Option (List String)
  | .check =>
      config.summary?.map fun summary =>
        [summary, "✅ Configuration OK: " ++ toString config.nodes.length ++ " nodes"]
  | .nodes => some (tableLines config.nodes)

/-- The record of a step of the command line. -/
def commandRecord (level : Level) (message : String) : Record :=
  ⟨.commandLine, level, message⟩

/-- What a run prints and records when its configuration cannot be loaded.  A
fault that is no fault of the configuration breaks the run off. -/
def loadFailure (path : String) (fault : Config.LoadFault) :
    Except Escape Nat × List String × List Record :=
  let broken := (.error (.load fault), [], [])
  let refused :=
    (.ok configExit,
      ["❌ Configuration error: " ++ fault.message, "💡 Check settings in: " ++ path],
      [commandRecord .error ("Failed to load config: " ++ fault.message)])
  match fault with
  | .missing _ =>
      (.ok configExit,
        ["❌ Configuration file not found: " ++ path,
          "💡 Create one with: cp config.example.yaml " ++ path],
        [commandRecord .error ("Configuration file not found: " ++ path)])
  | .unreachable _ _ | .value _ | .decode .tooManyDigits => broken
  | .unreadable _ _ | .malformed _ | .decode _ | .resolve _ => refused

/-- The configured log level takes over, or there is a warning about one that is
none.  While debugging the configured level is not looked at. -/
def levelEvents (verbose : Bool) (config : Config) : List Event :=
  if verbose then []
  else
    match Log.level? config.logLevel with
    | some level => [.threshold level]
    | none =>
        [.record (commandRecord .warning
          (Log.unknownLevelMessage config.logLevel ++ "; keeping current log level"))]

/-- The journal of a run of a command, the lines it prints, and its end. -/
def commandRun (tree : FileTree) (command : Command) (path : String) (verbose : Bool) :
    Except Escape Nat × List String × List Event :=
  let loaded := Config.loadTidy tree path
  match loaded.outcome with
  | .error fault =>
      let (exit, lines, records) := loadFailure path fault
      (exit, lines, (loaded.records ++ records).map .record)
  | .ok config =>
      let events :=
        (loaded.records ++ [commandRecord .info ("Loaded configuration from " ++ path)]).map
            .record ++
          levelEvents verbose config
      match commandLines? config command with
      | some lines => (.ok 0, lines, events)
      | none => (.error .tooManyDigits, [], events)

/-- The least level of the records that a run keeps at first. -/
def threshold (verbose : Bool) : Level :=
  if verbose then .debug else .info

/-- Runs a command. -/
def runCommand (tree : FileTree) (command : Command) (path : String)
    (verbose quiet : Bool) : Outcome :=
  let (exit, lines, events) := commandRun tree command (tidyPath path) verbose
  { exit
    output := if quiet then "" else printed lines
    records := Log.kept (threshold verbose) events
    report := "" }

/-- Runs the program as a command line asks. -/
def run (tree : FileTree) : Request → Outcome
  | .help page => ⟨.ok 0, page.help, [], ""⟩
  | .wrongUsage page fault => ⟨.ok configExit, "", [], usageReport page fault⟩
  | .noCommand => ⟨.ok 1, Page.help .general, [], ""⟩
  | .run command path verbose quiet => runCommand tree command path verbose quiet

/-- What a run writes to the error stream, every record with the same time. -/
def Outcome.errorText (time : String) (outcome : Outcome) : String :=
  outcome.report ++ String.join (outcome.records.map (Record.line time))

end RelayPool.CommandLine
