import RelayPool.Text.Half
import RelayPool.Yaml.Token.Plain

/-!
# Quoted scalars

Scalars between quotes.  Between single quotes a quote is written twice;
between double quotes a backslash begins an escape.  Line breaks are folded,
and white space around them is dropped.
-/

namespace RelayPool.Yaml

/-- The characters written by a backslash and a single character. -/
def simpleEscapes : List (Char × Char) :=
  [('0', '\x00'), ('a', '\x07'), ('b', '\x08'), ('t', '\t'), ('\t', '\t'),
    ('n', '\n'), ('v', '\x0B'), ('f', '\x0C'), ('r', '\r'), ('e', '\x1B'),
    (' ', ' '), ('"', '"'), ('\\', '\\'), ('/', '/'), ('N', '\x85'),
    ('_', '\xA0'), ('L', '\u2028'), ('P', '\u2029')]

/-- The number of hexadecimal digits behind the mark of a code point. -/
def codeLength? (mark : Char) : Option Nat :=
  if mark == 'x' then some 2
  else if mark == 'u' then some 4
  else if mark == 'U' then some 8
  else none

/-- The number that some hexadecimal digits write, if all are digits. -/
def hexNumber? (digits : List Char) : Option Nat :=
  digits.foldlM (fun value digit => (Text.hexValue? digit).map (16 * value + ·)) 0

/-- The fault of hexadecimal digits of which some are missing or none, at the
place behind them. -/
def shortfall (digits : List Char) (last : Cursor) : Fault :=
  if digits.all fun digit => (Text.hexValue? digit).isSome then last.refusal
  else .malformed

/-- The character that an escape writes by its code point. -/
def characterOfCode (code : Nat) : Except Fault Char :=
  if 0x7FFFFFFF < code then .error (.value .codePointTooLarge)
  else if 0x10FFFF < code then .error (.value .codePoint)
  else .ok (Text.ofCode code)

/-- The line breaks that follow inside quotes, in reverse order, without the
white space around them.  A document must not end there. -/
def quotedBreaks : Nat → List Char → Cursor → Except Fault (List Char × Cursor)
  | 0, _, _ => .error .malformed
  | fuel + 1, breaks, cursor => do
      if ← cursor.atSeparator then throw .malformed
      let next := cursor.skipWhile fun character =>
        character == ' ' || character == '\t'
      match next.lineBreak? with
      | none => return (breaks, next)
      | some (lineBreak, afterBreak) =>
          quotedBreaks fuel (lineBreak :: breaks) afterBreak

/-- The escape behind a backslash: the characters that it writes, in reverse
order. -/
def readEscape (fuel : Nat) (cursor : Cursor) : Except Fault (List Char × Cursor) :=
  let mark := cursor.peek
  match simpleEscapes.lookup mark with
  | some character => .ok ([character], cursor.forward)
  | none =>
      match codeLength? mark with
      | some length => do
          let (digits, last) := cursor.forward.take length
          match digits.length == length, hexNumber? digits with
          | true, some code => return ([← characterOfCode code], last)
          | _, _ => throw (shortfall digits last)
      | none =>
          match cursor.lineBreak? with
          | some (_, next) => quotedBreaks fuel [] next
          | none => .error cursor.refusal

/-- A character that a quoted scalar takes as it is. -/
def isQuotedPlain (character : Char) : Bool :=
  !(endsWord character || character == '\'' || character == '"' || character == '\\')

/-- Characters inside quotes up to white space or the closing quote, put in
reverse order before those already taken. -/
def quotedParts (double : Bool) : Nat → List Char → Cursor → Except Fault (List Char × Cursor)
  | 0, _, _ => .error .malformed
  | fuel + 1, taken, cursor => do
      let (part, next) := cursor.takeWhile isQuotedPlain
      let taken := part.reverse ++ taken
      let character := next.peek
      if !double && character == '\'' && next.peekAt 1 == '\'' then
        quotedParts double fuel ('\'' :: taken) (next.forwardBy 2)
      else if (double && character == '\'') ||
          (!double && (character == '"' || character == '\\')) then
        quotedParts double fuel (character :: taken) next.forward
      else if double && character == '\\' then do
        let (written, last) ← readEscape (fuel + 1) next.forward
        quotedParts double fuel (written ++ taken) last
      else return (taken, next)

/-- White space inside quotes, put in reverse order before what is already
taken. -/
def quotedSpaces (fuel : Nat) (taken : List Char) (cursor : Cursor) :
    Except Fault (List Char × Cursor) :=
  let (spaces, next) := cursor.takeWhile fun character =>
    character == ' ' || character == '\t'
  match next.lineBreak? with
  | some (lineBreak, afterBreak) => do
      let (breaks, last) ← quotedBreaks fuel [] afterBreak
      return ((foldedBreaks lineBreak breaks.reverse).reverse ++ taken, last)
  | none =>
      if next.peek == '\x00' then .error next.refusal
      else .ok (spaces.reverse ++ taken, next)

/-- The inside of a quoted scalar up to the closing quote, in reverse order. -/
def quotedInside (double : Bool) : Nat → List Char → Cursor → Except Fault (List Char × Cursor)
  | 0, _, _ => .error .malformed
  | fuel + 1, taken, cursor => do
      let (text, next) ← quotedParts double (fuel + 1) taken cursor
      if next.peek == (if double then '"' else '\'') then return (text, next)
      let (spaced, last) ← quotedSpaces (fuel + 1) text next
      quotedInside double fuel spaced last

/-- The quoted scalar at a place. -/
def readQuoted (fuel : Nat) (double : Bool) (cursor : Cursor) : Except Fault (Token × Cursor) := do
  let (taken, last) ← quotedInside double fuel [] cursor.forward
  return (.scalar (String.ofList taken.reverse) false, last.forward)

end RelayPool.Yaml
