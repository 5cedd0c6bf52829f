import RelayPool.FileTree
import RelayPool.Log.Reported
import RelayPool.Node
import RelayPool.Text.Blank
import RelayPool.Text.Utf8

/-!
# Node list files

A node list holds one node URI per line.  Blank lines and lines that begin
with `#` after white space are left out.  Only a line feed ends a line; the
white space around a URI is not part of it.
-/

namespace RelayPool

/-- Why the text of a file cannot be read. -/
inductive ReadFault
  | file (path : String) (fault : FileFault)
  | encoding (fault : Text.Utf8.Fault)
  deriving DecidableEq, Repr

/-- The sentence that reports a fault. -/
def ReadFault.message : ReadFault → String
  | .file path fault => fault.message path
  | .encoding fault => fault.message

namespace NodeList

/-- A line that holds a URI once the white space around it is gone. -/
def holdsUri (line : List Char) : Bool :=
  match line with
  | [] => false
  | first :: _ => first != '#'

/-- The URIs in the text of a node list, in order. -/
def uris (text : List Char) : List (List Char) :=
  ((Text.separate '\n' text).map Text.trimmed).filter holdsUri

/-- The nodes in the text of a node list.  Names and ports are still to be
settled. -/
def nodes (text : List Char) : List Node :=
  (uris text).map fun uri => { uri := String.ofList uri }

/-- The text of a file. -/
def readText (tree : FileTree) (path : String) : Except ReadFault (List Char) :=
  match tree.read path with
  | .error fault => .error (.file path fault)
  | .ok bytes =>
      match Text.Utf8.decode bytes with
      | .ok text => .ok text
      | .error fault => .error (.encoding fault)

/-- The nodes of a node list file. -/
def read (tree : FileTree) (path : String) : Log.Reported ReadFault (List Node) := do
  let text ← Log.Reported.ofExcept (readText tree path)
  let found := nodes text
  Log.Reported.report .nodeList .debug
    ("Read " ++ toString found.length ++ " nodes from " ++ path)
  return found

end NodeList

end RelayPool
