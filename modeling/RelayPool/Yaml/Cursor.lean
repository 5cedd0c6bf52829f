import RelayPool.Yaml.Source

/-!
# Cursors

A place in the text of a document, with its line and column, and the classes
of characters that end lines and words.  The end of the text reads as U+0000,
a character that no document may hold.
-/

namespace RelayPool.Yaml

/-- A line break.  A carriage return never gets this far: it has been read as
a line feed. -/
def isBreak (character : Char) : Bool :=
  character == '\n' || character == '\x85' || character == '\u2028' ||
    character == '\u2029'

/-- A line break or the end of the text. -/
def endsLine (character : Char) : Bool :=
  character == '\x00' || isBreak character

/-- A space, a line break or the end of the text. -/
def endsLineOrSpace (character : Char) : Bool :=
  character == ' ' || endsLine character

/-- A space, a tab, a line break or the end of the text. -/
def endsWord (character : Char) : Bool :=
  character == '\t' || endsLineOrSpace character

/-- A character of the names of anchors, tag handles and directives. -/
def isNameChar (character : Char) : Bool :=
  ('0' ≤ character && character ≤ '9') || ('A' ≤ character && character ≤ 'Z') ||
    ('a' ≤ character && character ≤ 'z') || character == '-' || character == '_'

/-- The characters with a meaning of their own inside brackets, after a colon
in a plain scalar. -/
def flowIndicators : List Char :=
  [',', '[', ']', '\x7b', '\x7d']

/-- A place in a text: what follows, the characters before it, and the line
and the column.  A byte order mark takes no column.  `behind` is the fault met
behind the text, if one is. -/
structure Cursor where
  rest : List Char
  index : Nat
  line : Nat
  column : Nat
  behind : Option Fault
  deriving Repr

namespace Cursor

/-- The start of a text. -/
def start (source : Source) : Cursor :=
  ⟨source.text, 0, 0, 0, source.behind⟩

/-- The fault that is met when the next `count` characters are asked for. -/
def blockedWithin? (count : Nat) (cursor : Cursor) : Option Fault :=
  if (cursor.rest.take count).length < count then cursor.behind else none

/-- The fault that is met when the next character is asked for. -/
def blocked? (cursor : Cursor) : Option Fault :=
  cursor.blockedWithin? 1

/-- Asks for the next `count` characters.  Those behind the end of a text are
not missed. -/
def demand (count : Nat) (cursor : Cursor) : Except Fault Unit :=
  match cursor.blockedWithin? count with
  | some fault => .error fault
  | none => .ok ()

/-- The fault of a text in which the next character cannot stand. -/
def refusal (cursor : Cursor) : Fault :=
  cursor.blocked?.getD .malformed

/-- The fault of a text in which the next character cannot stand, where the
one after it is asked for first. -/
def lateRefusal (cursor : Cursor) : Fault :=
  (cursor.blockedWithin? 2).getD .malformed

/-- The next character. -/
def peek (cursor : Cursor) : Char :=
  cursor.rest.headD '\x00'

/-- The character `count` places further on. -/
def peekAt (cursor : Cursor) (count : Nat) : Char :=
  (cursor.rest.drop count).headD '\x00'

/-- The place after the next character. -/
def forward (cursor : Cursor) : Cursor :=
  match cursor.rest with
  | [] => cursor
  | character :: rest =>
      let next := { cursor with rest, index := cursor.index + 1 }
      if isBreak character then { next with line := cursor.line + 1, column := 0 }
      else if character = '\uFEFF' then next
      else { next with column := cursor.column + 1 }

/-- The place after the next `count` characters. -/
def forwardBy : Nat → Cursor → Cursor
  | 0, cursor => cursor
  | count + 1, cursor => forwardBy count cursor.forward

/-- The next `count` characters and the place after them. -/
def take (count : Nat) (cursor : Cursor) : List Char × Cursor :=
  (cursor.rest.take count, cursor.forwardBy count)

/-- Adds to `count` the number of characters at the front of a text that pass
a test. -/
def countWhile (test : Char → Bool) (count : Nat) : List Char → Nat
  | [] => count
  | character :: rest =>
      if test character then countWhile test (count + 1) rest else count

/-- The next characters as long as they pass a test, and the place after
them. -/
def takeWhile (test : Char → Bool) (cursor : Cursor) : List Char × Cursor :=
  cursor.take (countWhile test 0 cursor.rest)

/-- The place after the next characters that pass a test. -/
def skipWhile (test : Char → Bool) (cursor : Cursor) : Cursor :=
  (cursor.takeWhile test).2

/-- The place after the spaces that follow. -/
def skipSpaces (cursor : Cursor) : Cursor :=
  cursor.skipWhile (· == ' ')

/-- The place at the end of the line. -/
def skipLine (cursor : Cursor) : Cursor :=
  cursor.skipWhile fun character => !endsLine character

/-- The place after a line break, and the character it counts as, if there is
a line break. -/
def lineBreak? (cursor : Cursor) : Option (Char × Cursor) :=
  let next := cursor.peek
  if next == '\n' || next == '\x85' then some ('\n', cursor.forward)
  else if next == '\u2028' || next == '\u2029' then some (next, cursor.forward)
  else none

/-- A mark of three equal characters that ends a document stands here, apart
from what follows. -/
def atMark (mark : Char) (cursor : Cursor) : Bool :=
  match cursor.rest with
  | first :: second :: third :: rest =>
      first == mark && second == mark && third == mark && endsWord (rest.headD '\x00')
  | _ => false

/-- One of the two marks that separate documents stands here.  Three
characters are asked for to see a mark, and a fourth to see that it ends. -/
def atSeparator (cursor : Cursor) : Except Fault Bool := do
  cursor.demand 3
  let front := cursor.rest.take 3
  if front != ['-', '-', '-'] && front != ['.', '.', '.'] then return false
  cursor.demand 4
  return endsWord (cursor.peekAt 3)

end Cursor

end RelayPool.Yaml
