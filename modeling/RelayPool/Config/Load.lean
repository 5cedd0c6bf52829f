import RelayPool.Config.Decode
import RelayPool.Config.Resolve
import RelayPool.Yaml.Value

/-!
# Loading configurations

A configuration file is found, read as a document, decoded and resolved.  Each
of these steps has faults of its own, and those in the file itself are told
apart from those in the node list file it names.
-/

namespace RelayPool.Config

open Log (Reported)

/-- Why a configuration cannot be loaded.  `unreachable` is a path that cannot
even be looked up, and `value` a document that is well formed and has no
value. -/
inductive LoadFault
  | missing (path : String)
  | unreachable (path : String) (fault : FileFault)
  | unreadable (path : String) (fault : ReadFault)
  | malformed (path : String)
  | value (fault : Yaml.ValueFault)
  | decode (fault : DecodeFault)
  | resolve (fault : ResolveFault)

/-- What stands for the report on a document that is not well formed. -/
def malformedText : String := "<yaml error>"

/-- The sentence that reports a fault. -/
def LoadFault.message : LoadFault → String
  | .missing path => "Configuration file not found: " ++ path
  | .unreachable path fault => fault.message path
  | .unreadable path fault => "read config " ++ path ++ ": " ++ fault.message
  | .malformed path => "decode config " ++ path ++ ": " ++ malformedText
  | .value fault => fault.message
  | .decode fault => fault.message
  | .resolve fault => fault.message

/-- Whether something is at a path; a path that leads through a file or holds
U+0000 leads nowhere. -/
def present (tree : FileTree) (path : String) : Except FileFault Bool :=
  match tree.find path with
  | .ok _ => .ok true
  | .error .nameTooLong => .error .nameTooLong
  | .error _ => .ok false

/-- The document in a file; a file without one holds an empty mapping. -/
def readDocument (tree : FileTree) (path : String) : Reported LoadFault Document :=
  match tree.read path with
  | .error fault => .fail (.unreadable path (.file path fault))
  | .ok bytes =>
      match (Yaml.Source.ofBytes bytes).value? with
      | .ok none | .ok (some .null) => pure (.map [])
      | .ok (some document) => pure document
      | .error (.encoding fault) => .fail (.unreadable path (.encoding fault))
      | .error (.value fault) => .fail (.value fault)
      | .error .malformed => do
          Reported.report .config .error
            ("Invalid YAML in configuration: " ++ malformedText)
          Reported.fail (.malformed path)

/-- Resolving as a step of a larger computation. -/
def resolved (tree : FileTree) (config : Config) : Reported LoadFault Config :=
  let resolution := resolve tree config
  match resolution.fault with
  | some fault => ⟨resolution.records, .error (.resolve fault)⟩
  | none => ⟨resolution.records, .ok resolution.config⟩

/-- Loads the configuration at a path that is tidy. -/
def loadTidy (tree : FileTree) (path : String) : Reported LoadFault Config := do
  Reported.report .config .info ("Loading configuration from: " ++ path)
  let found ← Reported.ofExcept ((present tree path).mapError (.unreachable path))
  if !found then Reported.fail (.missing path)
  else do
    let document ← readDocument tree path
    let decoded ← (ofDocument document).mapFault .decode
    let config ← resolved tree { decoded with source := some path }
    Reported.report .config .info
      ("Configuration loaded: mode=" ++ config.mode ++ ", " ++
        toString config.nodes.length ++ " nodes")
    return config

/-- Loads the configuration at a path. -/
def load (tree : FileTree) (path : String) : Reported LoadFault Config :=
  loadTidy tree (tidyPath path)

end RelayPool.Config
