import RelayPool.Yaml.Cursor
import RelayPool.Yaml.Fault

/-!
# Tokens

The tokens that the text of a document consists of.
-/

namespace RelayPool.Yaml

/-- What a line that begins with `%` says about the document behind it. -/
inductive Directive
  | version (major : Int)
  | tagHandle (handle expansion : String)
  | other
  deriving DecidableEq, Repr

/-- A token. -/
inductive Token
  | streamEnd
  | directive (directive : Directive)
  | documentStart
  | documentEnd
  | blockSequenceStart
  | blockMappingStart
  | blockEnd
  | flowSequenceStart
  | flowSequenceEnd
  | flowMappingStart
  | flowMappingEnd
  | blockEntry
  | flowEntry
  | key
  | value
  | alias (name : String)
  | anchor (name : String)
  | tag (handle : Option String) (suffix : String)
  | scalar (text : String) (plain : Bool)
  deriving DecidableEq, Repr

end RelayPool.Yaml
