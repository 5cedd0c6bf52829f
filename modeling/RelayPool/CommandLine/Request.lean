import RelayPool.CommandLine.Words

/-!
# Requests

What a command line asks for: a command on a configuration file, a help page,
or a report on wrong usage.
-/

namespace RelayPool.CommandLine

/-- The commands. -/
inductive Command
  | check
  | nodes
  deriving DecidableEq, Repr

/-- The name of a command. -/
def Command.label : Command → String
  | .check => "check"
  | .nodes => "nodes"

/-- The commands by their names. -/
def Command.ofName? (name : String) : Option Command :=
  if name = "check" then some .check
  else if name = "nodes" then some .nodes
  else none

/-- A help page: of the program or of one of its commands. -/
inductive Page
  | general
  | command (command : Command)
  deriving DecidableEq, Repr

/-- What is wrong with a command line. -/
inductive UsageFault
  | word (fault : WordFault)
  | unknownCommand (name : String)
  | unrecognized (words : List String)
  deriving DecidableEq, Repr

/-- The sentence that reports a fault. -/
def UsageFault.message : UsageFault → String
  | .word fault => fault.message
  | .unknownCommand name =>
      "argument command: invalid choice: " ++ Text.quoted name ++
        " (choose from 'check', 'nodes')"
  | .unrecognized words =>
      "unrecognized arguments: " ++ String.intercalate " " words

/-- What a command line asks for.  Without a command the general help page is
shown and the run fails. -/
inductive Request
  | help (page : Page)
  | wrongUsage (page : Page) (fault : UsageFault)
  | noCommand
  | run (command : Command) (path : String) (verbose quiet : Bool)
  deriving DecidableEq, Repr

/-- The flags before a command. -/
def generalFlags : Spellings :=
  [("-h", .help), ("--help", .help), ("-v", .verbose), ("--verbose", .verbose),
    ("--quiet", .quiet)]

/-- The flags behind a command. -/
def commandFlags : Spellings :=
  [("-h", .help), ("--help", .help)]

/-- The configuration file when none is named. -/
def defaultPath : String := "config.yaml"

/-- The words up to `--` with how they are read, and the words from there on. -/
def readWords (spellings : Spellings) :
    List String → Except WordFault (List (String × Word) × List String)
  | [] => .ok ([], [])
  | word :: rest =>
      if word = "--" then .ok ([], word :: rest)
      else do
        let read ← readWord spellings word
        let (words, behind) ← readWords spellings rest
        return ((word, read) :: words, behind)

/-- What has been settled before a command. -/
structure Settings where
  verbose : Bool
  quiet : Bool
  extras : List String
  deriving DecidableEq, Repr

/-- The settings with a flag; the flag for help is none of them. -/
def Settings.withFlag (settings : Settings) : Flag → Settings
  | .verbose => { settings with verbose := true }
  | .quiet => { settings with quiet := true }
  | .help => settings

/-- The settings with a word that has no meaning where it stands. -/
def Settings.withExtra (settings : Settings) (words : List String) : Settings :=
  { settings with extras := settings.extras ++ words }

/-- The settings after a word with flags, or the help page that it asks for or
the fault in it. -/
def Settings.takeFlags (settings : Settings) (page : Page) (spellings : Spellings)
    (flag : Flag) (short : Bool) (attached : Attached) : Except Request Settings :=
  match flagsOf spellings flag short attached with
  | .error fault => .error (.wrongUsage page (.word fault))
  | .ok flags =>
      if flags.contains .help then .error (.help page)
      else .ok (flags.foldl Settings.withFlag settings)

/-- Reads the words behind a command.  The first plain word is the path, and a
`--` next to it belongs to it; `behind` are the words from the `--` on. -/
def readCommandWords (page : Page) (behind : List String) (path : Option String)
    (settings : Settings) :
    List (String × Word) → Except Request (Option String × Settings)
  | [] =>
      match path, behind with
      | none, _ :: named :: rest => .ok (some named, settings.withExtra rest)
      | none, _ => .ok (none, settings)
      | some _, rest => .ok (path, settings.withExtra rest)
  | (word, .plain) :: rest =>
      match path, rest with
      | some _, _ =>
          readCommandWords page behind path (settings.withExtra [word]) rest
      | none, [] => .ok (some word, settings.withExtra (behind.drop 1))
      | none, _ => readCommandWords page behind (some word) settings rest
  | (word, .unknownFlag) :: rest =>
      readCommandWords page behind path (settings.withExtra [word]) rest
  | (_, .flag flag short attached) :: rest => do
      let settings ← settings.takeFlags page commandFlags flag short attached
      readCommandWords page behind path settings rest

/-- The request of a command with the words behind it. -/
def readCommand (command : Command) (settings : Settings) (words : List String) :
    Request :=
  let page := Page.command command
  match readWords commandFlags words with
  | .error fault => .wrongUsage page (.word fault)
  | .ok (read, behind) =>
      match readCommandWords page behind none settings read with
      | .error request => request
      | .ok (path, settings) =>
          if settings.extras.isEmpty then
            .run command (path.getD defaultPath) settings.verbose settings.quiet
          else .wrongUsage .general (.unrecognized settings.extras)

/-- Reads the words up to the command.  A `--` is taken for the name of the
command when words follow it. -/
def readGeneralWords (behind : List String) (settings : Settings) :
    List (String × Word) → Request
  | [] =>
      match behind with
      | mark :: _ :: _ => .wrongUsage .general (.unknownCommand mark)
      | rest =>
          let extras := settings.extras ++ rest
          if extras.isEmpty then .noCommand
          else .wrongUsage .general (.unrecognized extras)
  | (name, .plain) :: rest =>
      match Command.ofName? name with
      | some command => readCommand command settings (rest.map (·.1) ++ behind)
      | none => .wrongUsage .general (.unknownCommand name)
  | (word, .unknownFlag) :: rest =>
      readGeneralWords behind (settings.withExtra [word]) rest
  | (_, .flag flag short attached) :: rest =>
      match settings.takeFlags .general generalFlags flag short attached with
      | .error request => request
      | .ok settings => readGeneralWords behind settings rest

/-- What the words of a command line ask for. -/
def Request.ofWords (words : List String) : Request :=
  match readWords generalFlags words with
  | .error fault => .wrongUsage .general (.word fault)
  | .ok (read, behind) => readGeneralWords behind ⟨false, false, []⟩ read

end RelayPool.CommandLine
