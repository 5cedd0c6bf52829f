import RelayPool.Text.Half
import RelayPool.Text.Quoted
import RelayPool.Text.Separated
import RelayPool.Text.Utf8

/-!
# File trees

Files and directories, and what a path finds among them.  A place is given by
the names on the way to it from the root; a path is walked component by
component from the root or from the working directory.
-/

namespace RelayPool

/-- A file with its bytes, or a directory. -/
inductive FileEntry
  | file (content : List UInt8)
  | directory
  deriving DecidableEq, Repr

/-- Why a path gives no file to read. -/
inductive FileFault
  | notFound
  | notDirectory
  | isDirectory
  | nameTooLong
  | nullCharacter
  | halves (run : Text.HalfRun)
  deriving DecidableEq, Repr

/-- The report of the system on a path. -/
def systemReport (number : Nat) (sentence path : String) : String :=
  "[Errno " ++ toString number ++ "] " ++ sentence ++ ": " ++ Text.quoted path

/-- The sentence that reports a fault at a path. -/
def FileFault.message (path : String) : FileFault → String
  | .notFound => systemReport 2 "No such file or directory" path
  | .notDirectory => systemReport 20 "Not a directory" path
  | .isDirectory => systemReport 21 "Is a directory" path
  | .nameTooLong => systemReport 36 "File name too long" path
  | .nullCharacter => "embedded null byte"
  | .halves run => run.message

/-- The place of the working directory, and the entries by their places.  The
directories on the way to an entry are entries too. -/
structure FileTree where
  location : List String
  entries : List (List String × FileEntry)
  deriving DecidableEq, Repr

namespace FileTree

/-- The greatest number of bytes of a component. -/
def componentLimit : Nat := 255

/-- The greatest number of bytes of a path. -/
def pathLimit : Nat := 4095

/-- The bytes of a character in a name; half of a surrogate pair may stand for
a byte that encodes no character. -/
def nameCharBytes (character : Char) : List UInt8 :=
  if Text.isByteHalf character then [UInt8.ofNat (Text.codeOf character % 256)]
  else String.utf8EncodeChar character

/-- The bytes of a path, or the first halves in it that stand for no bytes. -/
def pathBytes (path : String) : Except Text.HalfRun (List UInt8) :=
  match Text.refusedHalves? Text.isNoByteHalf 0 path.toList with
  | some run => .error run
  | none => .ok (path.toList.flatMap nameCharBytes)

/-- The name that some bytes write: the characters that they encode, and halves
for the other bytes. -/
def nameOfBytes (bytes : List UInt8) : String :=
  String.ofList ((Text.Utf8.pieces bytes).flatMap fun piece =>
    match piece with
    | .character value => [value]
    | .malformed bytes _ => bytes.map fun byte => Text.ofCode (0xDC00 + byte.toNat))

/-- The number of bytes of a name. -/
def nameSize (name : String) : Nat :=
  (name.toList.flatMap nameCharBytes).length

/-- The components of a path; a slash at the end leaves an empty one. -/
def components (path : String) : List String :=
  (Text.separate '/' path.toList).map String.ofList

/-- The components that name something below the directory they stand in. -/
def namedComponents (path : String) : List String :=
  (components path).filter fun component => component ≠ "" ∧ component ≠ "."

/-- A working directory with nothing in it, in a directory where no path names
it. -/
def empty : FileTree := ⟨["."], []⟩

/-- A working directory with nothing in it at the place of an absolute path. -/
def emptyAt (path : String) : FileTree := ⟨namedComponents path, []⟩

/-- What is at a place.  The working directory and those above it are always
there. -/
def entryAt (tree : FileTree) (place : List String) : Option FileEntry :=
  if place.isPrefixOf tree.location then some .directory
  else tree.entries.lookup place

/-- The place that a component leads to; above the root is the root. -/
def placeAfter (place : List String) (component : String) : List String :=
  if component = "" ∨ component = "." then place
  else if component = ".." then place.dropLast
  else place ++ [component]

/-- The place where a path begins. -/
def origin (tree : FileTree) (path : String) : List String :=
  if path.front = '/' then [] else tree.location

/-- Goes from a place through the components of a path. -/
def walk (tree : FileTree) (place : List String) : List String → Except FileFault FileEntry
  | [] =>
      match tree.entryAt place with
      | some entry => .ok entry
      | none => .error .notFound
  | component :: rest =>
      match tree.entryAt place with
      | none => .error .notFound
      | some (.file _) => .error .notDirectory
      | some .directory =>
          if componentLimit < nameSize component then .error .nameTooLong
          else walk tree (placeAfter place component) rest

/-- What is at a path. -/
def find (tree : FileTree) (path : String) : Except FileFault FileEntry :=
  match pathBytes path with
  | .error run => .error (.halves run)
  | .ok bytes =>
      let path := nameOfBytes bytes
      if path.toList.contains '\x00' then .error .nullCharacter
      else if path = "" then .error .notFound
      else if pathLimit < bytes.length then .error .nameTooLong
      else tree.walk (tree.origin path) (components path)

/-- The bytes of the file at a path. -/
def read (tree : FileTree) (path : String) : Except FileFault (List UInt8) :=
  match tree.find path with
  | .ok (.file content) => .ok content
  | .ok .directory => .error .isDirectory
  | .error fault => .error fault

/-- Puts an entry at a place. -/
def set (tree : FileTree) (place : List String) (entry : FileEntry) : FileTree :=
  { tree with
    entries := (tree.entries.filter fun kept => kept.1 ≠ place) ++ [(place, entry)] }

/-- Makes the directories on the way from a place through some components where
nothing is yet, and gives the place that they lead to. -/
def makeDirectories (tree : FileTree) (place : List String) :
    List String → List String × FileTree
  | [] => (place, tree)
  | component :: rest =>
      let next := placeAfter place component
      let made :=
        match tree.entryAt next with
        | some _ => tree
        | none => tree.set next .directory
      made.makeDirectories next rest

/-- Writes a file or makes a directory, and the directories on the way. -/
def put (tree : FileTree) (path : String) (entry : FileEntry) : FileTree :=
  let way := components path
  match entry with
  | .directory => (tree.makeDirectories (tree.origin path) way).2
  | .file _ =>
      let (place, made) := tree.makeDirectories (tree.origin path) way.dropLast
      made.set (placeAfter place (way.getLastD "")) entry

/-- Removes the entry at a path with all below it. -/
def remove (tree : FileTree) (path : String) : FileTree :=
  let place := (components path).foldl placeAfter (tree.origin path)
  { tree with entries := tree.entries.filter fun kept => !place.isPrefixOf kept.1 }

end FileTree

/-- A path without its empty components, its components `.` and a slash at its
end; the path with no components left is `.`. -/
def tidyPath (path : String) : String :=
  let root :=
    match path.toList with
    | '/' :: '/' :: '/' :: _ => "/"
    | '/' :: '/' :: _ => "//"
    | '/' :: _ => "/"
    | _ => ""
  let tidied := root ++ String.intercalate "/" (FileTree.namedComponents path)
  if tidied = "" then "." else tidied

end RelayPool
