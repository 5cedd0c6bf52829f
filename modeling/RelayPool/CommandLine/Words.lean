import RelayPool.Text.DecimalDigit
import RelayPool.Text.Quoted

/-!
# Words of a command line

How a word is read: as a flag, as a word that looks like a flag and is none,
or as a plain word.  A long flag may be shortened as long as one flag is
meant, and one-letter flags may share a word.
-/

namespace RelayPool.CommandLine

/-- The flags. -/
inductive Flag
  | help
  | verbose
  | quiet
  deriving DecidableEq, Repr

/-- All spellings of a flag, as they are named in messages. -/
def Flag.label : Flag → String
  | .help => "-h/--help"
  | .verbose => "-v/--verbose"
  | .quiet => "--quiet"

/-- The spellings of some flags. -/
abbrev Spellings := List (String × Flag)

/-- The text attached to a flag in its word, behind `=` or as more letters, if
any is. -/
abbrev Attached := Option (List Char)

/-- A word that has been read. -/
inductive Word
  | plain
  | unknownFlag
  | flag (flag : Flag) (short : Bool) (attached : Attached)
  deriving DecidableEq, Repr

/-- What is wrong with a word. -/
inductive WordFault
  | ambiguous (word : String) (spellings : List String)
  | attached (flag : Flag) (text : List Char)
  deriving DecidableEq, Repr

/-- The sentence that reports a fault. -/
def WordFault.message : WordFault → String
  | .ambiguous word spellings =>
      "ambiguous option: " ++ word ++ " could match " ++
        String.intercalate ", " spellings
  | .attached flag text =>
      "argument " ++ flag.label ++ ": ignored explicit argument " ++
        Text.quoted (String.ofList text)

/-- The spelling of a flag is one letter. -/
def isShort (spelling : String) : Bool :=
  !("--".toList.isPrefixOf spelling.toList)

/-- A word is a negative number: digits with at most one point before the last
of them. -/
def isNegativeNumber (word : List Char) : Bool :=
  match word with
  | '-' :: rest =>
      let number :=
        match rest.reverse with
        | '\n' :: front => front.reverse
        | _ => rest
      let whole := number.takeWhile Text.isDecimalDigit
      match number.dropWhile Text.isDecimalDigit with
      | [] => !whole.isEmpty
      | '.' :: digits => !digits.isEmpty && digits.all Text.isDecimalDigit
      | _ => false
  | _ => false

/-- The part of a word before the first `=`, and the part behind it. -/
def splitValue (word : List Char) : List Char × Attached :=
  match word.dropWhile (· ≠ '=') with
  | _ :: value => (word.takeWhile (· ≠ '='), some value)
  | [] => (word, none)

/-- The flags that a word may mean by a shortened spelling or by its first
letter, with what is attached. -/
def candidates (spellings : Spellings) (word : List Char) :
    List (String × Flag × Attached) :=
  if ['-', '-'].isPrefixOf word then
    let (name, attached) := splitValue word
    (spellings.filter fun entry => name.isPrefixOf entry.1.toList).map fun entry =>
      (entry.1, entry.2, attached)
  else
    spellings.filterMap fun entry =>
      if entry.1.toList = word.take 2 then
        some (entry.1, entry.2, some (word.drop 2))
      else if word.isPrefixOf entry.1.toList then
        some (entry.1, entry.2, none)
      else none

/-- Reads a word that begins with a hyphen and spells no flag in full. -/
def readUnspelled (spellings : Spellings) (word : String) : Except WordFault Word :=
  match candidates spellings word.toList with
  | [(spelling, flag, attached)] => .ok (.flag flag (isShort spelling) attached)
  | [] =>
      if isNegativeNumber word.toList || word.toList.contains ' ' then .ok .plain
      else .ok .unknownFlag
  | several => .error (.ambiguous word (several.map (·.1)))

/-- Reads a word. -/
def readWord (spellings : Spellings) (word : String) : Except WordFault Word :=
  match word.toList with
  | [] => .ok .plain
  | first :: rest =>
      if first ≠ '-' ∨ rest = [] then .ok .plain
      else
        match spellings.lookup word with
        | some flag => .ok (.flag flag (isShort word) none)
        | none =>
            let (name, attached) := splitValue word.toList
            match attached, spellings.lookup (String.ofList name) with
            | some _, some flag =>
                .ok (.flag flag (isShort (String.ofList name)) attached)
            | _, _ => readUnspelled spellings word

/-- The flags that a one-letter flag and the letters behind it mean.  No flag
takes a value, so a letter that is no flag makes the text from there on a value
that the flag before it refuses. -/
def readLetters (spellings : Spellings) (flag : Flag) :
    List Char → Except WordFault (List Flag)
  | [] => .ok [flag]
  | letter :: rest =>
      match spellings.lookup (String.ofList ['-', letter]) with
      | none => .error (.attached flag (letter :: rest))
      | some next => (readLetters spellings next rest).map (flag :: ·)

/-- The flags of a word.  Text attached to a one-letter flag is read as more
letters, also behind `=`, and an empty one is refused. -/
def flagsOf (spellings : Spellings) (flag : Flag) (short : Bool) :
    Attached → Except WordFault (List Flag)
  | none => .ok [flag]
  | some text =>
      if short && !text.isEmpty then readLetters spellings flag text
      else .error (.attached flag text)

end RelayPool.CommandLine
