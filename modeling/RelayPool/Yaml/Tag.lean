import RelayPool.Text.Separated
import RelayPool.Yaml.Timestamp

/-!
# Tags

The types of nodes, and the types that plain scalars have by their form.
-/

namespace RelayPool.Yaml

/-- The type of a node.  A merge and a value are marks of keys and have no
values of their own. -/
inductive Tag
  | null
  | bool
  | int
  | float
  | binary
  | timestamp
  | orderedMap
  | pairs
  | set
  | text
  | sequence
  | mapping
  | merge
  | value
  | unknown
  deriving DecidableEq, Repr, Inhabited

namespace Tag

/-- What the handle `!!` stands for. -/
def coreHandle : String := "tag:yaml.org,2002:"

/-- The types by the names behind the core handle. -/
def coreNames : List (String × Tag) :=
  [("null", .null), ("bool", .bool), ("int", .int), ("float", .float),
    ("binary", .binary), ("timestamp", .timestamp), ("omap", .orderedMap),
    ("pairs", .pairs), ("set", .set), ("str", .text), ("seq", .sequence),
    ("map", .mapping), ("merge", .merge), ("value", .value)]

/-- The type with a full name. -/
def ofName (name : String) : Tag :=
  ((coreNames.find? fun entry => coreHandle ++ entry.1 = name).map (·.2)).getD .unknown

/-- The spellings of the truth values in lower case. -/
def truthValues : List (String × Bool) :=
  [("yes", true), ("no", false), ("true", true), ("false", false), ("on", true),
    ("off", false)]

/-- The plain scalars that are truth values: each in lower case, with a capital
and in capitals. -/
def truthWords : List String :=
  ["yes", "Yes", "YES", "no", "No", "NO", "true", "True", "TRUE", "false", "False",
    "FALSE", "on", "On", "ON", "off", "Off", "OFF"]

/-- The plain scalars that are null. -/
def nullWords : List String := ["", "~", "null", "Null", "NULL"]

/-- The plain scalars for infinity behind an optional sign. -/
def infinityWords : List String := [".inf", ".Inf", ".INF"]

/-- The plain scalars for no number. -/
def nanWords : List String := [".nan", ".NaN", ".NAN"]

/-- The character is a digit below `limit`, which is at most ten, or an
underscore. -/
def isDigitBelow (limit : Nat) (character : Char) : Bool :=
  character == '_' || ('0' ≤ character && character.toNat < 48 + limit)

/-- The character is a decimal digit or an underscore. -/
def isDigitOrMark (character : Char) : Bool :=
  isDigitBelow 10 character

/-- A run of digits and underscores that begins with a digit. -/
def isDigitRun : List Char → Bool
  | [] => false
  | first :: rest => first != '_' && isDigitOrMark first && rest.all isDigitOrMark

/-- The part of a number to the base of sixty behind a colon. -/
def isSixtieth : List Char → Bool
  | [digit] => digit != '_' && isDigitOrMark digit
  | [tens, digit] =>
      tens != '_' && isDigitBelow 6 tens && digit != '_' && isDigitOrMark digit
  | _ => false

/-- The text without a sign at its front. -/
def unsigned (text : List Char) : List Char :=
  match text with
  | '-' :: rest | '+' :: rest => rest
  | _ => text

/-- The character is a hexadecimal digit or an underscore. -/
def isHexOrMark (character : Char) : Bool :=
  character == '_' || (Text.hexValue? character).isSome

/-- An integer without its sign: in base two, eight, ten or sixteen, or to the
base of sixty. -/
def isIntForm (text : List Char) : Bool :=
  match text with
  | '0' :: 'b' :: digits => !digits.isEmpty && digits.all (isDigitBelow 2)
  | '0' :: 'x' :: digits => !digits.isEmpty && digits.all isHexOrMark
  | '0' :: digits => digits.all (isDigitBelow 8)
  | _ =>
      match Text.separate ':' text with
      | first :: sixtieths => isDigitRun first && sixtieths.all isSixtieth
      | [] => false

/-- An exponent with its sign, or nothing. -/
def isExponent : List Char → Bool
  | [] => true
  | mark :: sign :: digits =>
      (mark == 'e' || mark == 'E') && (sign == '-' || sign == '+') &&
        !digits.isEmpty && digits.all fun digit => digit != '_' && isDigitOrMark digit
  | _ => false

/-- The text up to its first point and the text behind it, if it has one. -/
def splitPoint? (text : List Char) : Option (List Char × List Char) :=
  match text.dropWhile (· ≠ '.') with
  | _ :: behind => some (text.takeWhile (· ≠ '.'), behind)
  | [] => none

/-- A number with a point.  The whole part may be left out without a sign, and
it may be to the base of sixty. -/
def isFloatForm (text : List Char) : Bool :=
  match splitPoint? text with
  | none => false
  | some ([], behind) =>
      isDigitRun (behind.takeWhile isDigitOrMark) &&
        isExponent (behind.dropWhile isDigitOrMark)
  | some (whole, behind) =>
      match Text.separate ':' (unsigned whole) with
      | [digits] => isDigitRun digits && isExponent (behind.dropWhile isDigitOrMark)
      | first :: sixtieths =>
          isDigitRun first && sixtieths.all isSixtieth && behind.all isDigitOrMark
      | [] => false

/-- A floating point number, an infinity or no number. -/
def isFloat (text : List Char) : Bool :=
  nanWords.contains (String.ofList text) ||
    infinityWords.contains (String.ofList (unsigned text)) || isFloatForm text

/-- The type that the form of a text gives it. -/
def ofForm (text : List Char) : Tag :=
  let word := String.ofList text
  if truthWords.contains word then .bool
  else if isFloat text then .float
  else if isIntForm (unsigned text) then .int
  else if word = "<<" then .merge
  else if nullWords.contains word then .null
  else if TimestampText.isPlain text then .timestamp
  else if word = "=" then .value
  else if word = "!" ∨ word = "&" ∨ word = "*" then .unknown
  else .text

/-- A text without a line feed at its end. -/
def withoutFinalBreak (text : List Char) : List Char :=
  match text.reverse with
  | '\n' :: rest => if rest.isEmpty then text else rest.reverse
  | _ => text

/-- The type of a plain scalar.  A line feed at its end does not change its
form. -/
def ofPlain (text : String) : Tag :=
  ofForm (withoutFinalBreak text.toList)

end Tag

end RelayPool.Yaml
