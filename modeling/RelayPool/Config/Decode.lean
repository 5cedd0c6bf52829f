import RelayPool.Config.Basic
import RelayPool.Duration.Basic
import RelayPool.Log.Reported

/-!
# Configurations from documents

A document is read as a configuration setting by setting.  Absent and null
settings stay open, unknown keys are reported and skipped, and the first
setting with a value of the wrong kind ends the reading.
-/

namespace RelayPool.Config

open Log (Reported)

/-- The kinds of values that settings have. -/
inductive Kind
  | mapping
  | list
  | text
  | integer
  | truthValue
  deriving DecidableEq, Repr

/-- The words for a kind. -/
def Kind.phrase : Kind → String
  | .mapping => "a mapping"
  | .list => "a list"
  | .text => "a string"
  | .integer => "an integer"
  | .truthValue => "a boolean"

/-- Why a document is no configuration.  A value that would have to be shown
and has too many digits for that is a fault of its own. -/
inductive DecodeFault
  | notMapping
  | wrongKind (key : String) (expected : Kind)
  | portOutOfRange (key : String) (port : Int)
  | duration (key : String) (fault : Duration.Fault)
  | tooManyDigits

/-- The sentence that reports a fault. -/
def DecodeFault.message : DecodeFault → String
  | .notMapping => "decode config: top-level document must be a mapping"
  | .wrongKind key expected =>
      "decode config: '" ++ key ++ "' must be " ++ expected.phrase
  | .portOutOfRange key port =>
      "decode config: '" ++ key ++ "' must be between 0 and " ++
        Number.intText maxPort ++ ", got " ++ Number.intText port
  | .duration key fault => "decode config: '" ++ key ++ "': " ++ fault.message
  | .tooManyDigits => Number.digitLimitMessage

/-- The entries of a mapping. -/
abbrev Entries := List (Document × Document)

/-- The entries of a section; an open section has none. -/
def asEntries (key : String) : Option Document → Except DecodeFault Entries
  | none | some .null => .ok []
  | some (.map entries) => .ok entries
  | some _ => .error (.wrongKind key .mapping)

/-- A text.  A number stands for its own text. -/
def asText (key : String) : Option Document → Except DecodeFault String
  | none | some .null => .ok ""
  | some (.text value) => .ok value
  | some (.float value) => .ok value.text
  | some (.int value) =>
      match Number.intText? value with
      | some text => .ok text
      | none => .error .tooManyDigits
  | some _ => .error (.wrongKind key .text)

/-- An integer; a truth value is none. -/
def asInt (key : String) : Option Document → Except DecodeFault Int
  | none | some .null => .ok 0
  | some (.int value) => .ok value
  | some _ => .error (.wrongKind key .integer)

/-- An integer from zero to the greatest port. -/
def asPort (key : String) (value : Option Document) : Except DecodeFault Int := do
  let port ← asInt key value
  if 0 ≤ port ∧ port ≤ maxPort then return port
  else if (Number.intText? port).isSome then throw (.portOutOfRange key port)
  else throw .tooManyDigits

/-- A truth value that may stay open. -/
def asTruthValue (key : String) : Option Document → Except DecodeFault (Option Bool)
  | none | some .null => .ok none
  | some (.bool value) => .ok (some value)
  | some _ => .error (.wrongKind key .truthValue)

/-- A duration; an open one is zero. -/
def asDuration (key : String) : Option Document → Except DecodeFault TimeSpan
  | none | some .null => .ok .zero
  | some value => (Duration.ofDocument value).mapError (.duration key)

/-- The items of a list; an open list has none. -/
def asItems (key : String) : Option Document → Except DecodeFault (List Document)
  | none | some .null => .ok []
  | some (.list items) => .ok items
  | some _ => .error (.wrongKind key .list)

/-- The key is one of the known names. -/
def isKnown (known : List String) : Document → Bool
  | .text name => known.contains name
  | _ => false

/-- A key below the key of its section. -/
def dotted (scope name : String) : String :=
  if scope = "" then name else scope ++ "." ++ name

/-- Reports every key that is not known, in order. -/
def reportUnknown (known : List String) (scope : String) :
    Entries → Reported DecodeFault Unit
  | [] => pure ()
  | (key, _) :: rest =>
      if isKnown known key then reportUnknown known scope rest
      else
        match key.plainText? with
        | none => .fail .tooManyDigits
        | some name => do
            Reported.report .config .warning
              ("Ignoring unknown configuration key: " ++ dotted scope name)
            reportUnknown known scope rest

/-- The entries of a section, its unknown keys reported. -/
def readSection (known : List String) (scope : String) (value : Option Document) :
    Reported DecodeFault Entries := do
  let entries ← Reported.ofExcept (asEntries scope value)
  reportUnknown known scope entries
  return entries

/-- Reads a setting of a section. -/
def setting {α : Type} (read : String → Option Document → Except DecodeFault α)
    (scope : String) (entries : Entries) (name : String) : Except DecodeFault α :=
  read (dotted scope name) (Document.lookup? name entries)

/-- The settings of the document itself. -/
def topLevelKeys : List String :=
  ["mode", "listener", "multi_port", "pool", "management", "nodes", "nodes_file",
    "log_level"]

/-- The settings of the listener. -/
def listenerKeys : List String := ["address", "port", "username", "password"]

/-- The settings of the nodes' own ports. -/
def multiPortKeys : List String := ["address", "base_port", "username", "password"]

/-- The settings of the pool. -/
def poolKeys : List String := ["mode", "failure_threshold", "blacklist_duration"]

/-- The settings of the management endpoint. -/
def managementKeys : List String := ["enabled", "listen", "probe_target"]

/-- The settings of a node. -/
def nodeKeys : List String := ["name", "uri", "port", "username", "password"]

/-- The listener of a section. -/
def listenerOfEntries (scope : String) (entries : Entries) :
    Except DecodeFault Listener := do
  let address ← setting asText scope entries "address"
  let port ← setting asPort scope entries "port"
  let username ← setting asText scope entries "username"
  let password ← setting asText scope entries "password"
  return { address, port, username, password }

/-- The settings of the nodes' own ports in a section. -/
def multiPortOfEntries (scope : String) (entries : Entries) :
    Except DecodeFault MultiPort := do
  let address ← setting asText scope entries "address"
  let basePort ← setting asPort scope entries "base_port"
  let username ← setting asText scope entries "username"
  let password ← setting asText scope entries "password"
  return { address, basePort, username, password }

/-- The pool of a section. -/
def poolOfEntries (scope : String) (entries : Entries) : Except DecodeFault Pool := do
  let mode ← setting asText scope entries "mode"
  let failureThreshold ← setting asInt scope entries "failure_threshold"
  let blacklistDuration ← setting asDuration scope entries "blacklist_duration"
  return { mode, failureThreshold, blacklistDuration }

/-- The management endpoint of a section. -/
def managementOfEntries (scope : String) (entries : Entries) :
    Except DecodeFault Management := do
  let enabled ← setting asTruthValue scope entries "enabled"
  let listen ← setting asText scope entries "listen"
  let probeTarget ← setting asText scope entries "probe_target"
  return { enabled, listen, probeTarget }

/-- The node of a section. -/
def nodeOfEntries (scope : String) (entries : Entries) : Except DecodeFault Node := do
  let name ← setting asText scope entries "name"
  let uri ← setting asText scope entries "uri"
  let port ← setting asPort scope entries "port"
  let username ← setting asText scope entries "username"
  let password ← setting asText scope entries "password"
  return { name, uri, port, username, password }

/-- Reads a section with its settings. -/
def readPart {α : Type} (known : List String)
    (read : String → Entries → Except DecodeFault α) (scope : String)
    (value : Option Document) : Reported DecodeFault α := do
  let entries ← readSection known scope value
  Reported.ofExcept (read scope entries)

/-- The key of a node in the list of nodes. -/
def nodeKey (index : Nat) : String :=
  "nodes[" ++ toString index ++ "]"

/-- Reads the nodes from the one with the given index on. -/
def readNodes (index : Nat) : List Document → Reported DecodeFault (List Node)
  | [] => pure []
  | item :: rest => do
      let node ← readPart nodeKeys nodeOfEntries (nodeKey index) (some item)
      let nodes ← readNodes (index + 1) rest
      return node :: nodes

/-- Reads the entries of a whole document. -/
def ofEntries (entries : Entries) : Reported DecodeFault Config := do
  reportUnknown topLevelKeys "" entries
  let part (name : String) := Document.lookup? name entries
  let listener ← readPart listenerKeys listenerOfEntries "listener" (part "listener")
  let multiPort ←
    readPart multiPortKeys multiPortOfEntries "multi_port" (part "multi_port")
  let pool ← readPart poolKeys poolOfEntries "pool" (part "pool")
  let management ←
    readPart managementKeys managementOfEntries "management" (part "management")
  let items ← Reported.ofExcept (asItems "nodes" (part "nodes"))
  let nodes ← readNodes 0 items
  let mode ← Reported.ofExcept (setting asText "" entries "mode")
  let nodesFile ← Reported.ofExcept (setting asText "" entries "nodes_file")
  let logLevel ← Reported.ofExcept (setting asText "" entries "log_level")
  return { mode, listener, multiPort, pool, management, nodes, nodesFile, logLevel }

/-- The configuration that a document holds, with every open setting left
open. -/
def ofDocument : Document → Reported DecodeFault Config
  | .map entries => ofEntries entries
  | _ => .fail .notMapping

end RelayPool.Config
