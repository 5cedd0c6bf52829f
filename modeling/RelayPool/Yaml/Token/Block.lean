import RelayPool.Yaml.Token.Basic

/-!
# Block scalars

Scalars made of indented lines, taken literally or with folded line breaks.  A
header says how the line breaks at the end are kept and may give the
indentation.
-/

namespace RelayPool.Yaml

/-- What happens to the line breaks at the end of a block scalar. -/
inductive Chomping
  | clip
  | keep
  | strip
  deriving DecidableEq, Repr

/-- The sign for keeping or dropping the line breaks at the end. -/
def chomping? (character : Char) : Option Chomping :=
  if character == '+' then some .keep
  else if character == '-' then some .strip
  else none

/-- The digit that gives an indentation, if one stands here; zero gives none. -/
def readIncrement (cursor : Cursor) : Except Fault (Option Nat × Cursor) :=
  let character := cursor.peek
  if character == '0' then .error .malformed
  else if '1' ≤ character ∧ character ≤ '9' then
    .ok (some (character.toNat - 48), cursor.forward)
  else .ok (none, cursor)

/-- The signs in the header of a block scalar, in either order. -/
def readIndicators (cursor : Cursor) : Except Fault ((Chomping × Option Nat) × Cursor) := do
  let ((chomping, increment), last) ←
    match chomping? cursor.peek with
    | some chomping => do
        let (increment, last) ← readIncrement cursor.forward
        pure ((chomping, increment), last)
    | none => do
        let (increment, next) ← readIncrement cursor
        match increment, chomping? next.peek with
        | some _, some chomping => pure ((chomping, increment), next.forward)
        | _, _ => pure ((Chomping.clip, increment), next)
  if endsLineOrSpace last.peek then return ((chomping, increment), last)
  throw last.refusal

/-- The place after the rest of a line that holds nothing but a comment. -/
def skipCommentLine (cursor : Cursor) : Except Fault Cursor :=
  let next := cursor.skipSpaces
  let last := if next.peek == '#' then next.skipLine else next
  if endsLine last.peek then
    match last.lineBreak? with
    | some (_, afterBreak) => .ok afterBreak
    | none => .ok last
  else .error last.refusal

/-- The blank lines at the start of a block scalar: their breaks in reverse
order and the greatest column that their spaces or the first text reach. -/
def blockIndentation : Nat → List Char → Nat → Cursor → List Char × Nat × Cursor
  | 0, breaks, column, cursor => (breaks, column, cursor)
  | fuel + 1, breaks, column, cursor =>
      if cursor.peek == ' ' then
        let next := cursor.forward
        blockIndentation fuel breaks (max column next.column) next
      else
        match cursor.lineBreak? with
        | some (lineBreak, next) =>
            blockIndentation fuel (lineBreak :: breaks) column next
        | none => (breaks, column, cursor)

/-- The place after the spaces of a line up to the indentation. -/
def skipIndentation (indent : Nat) : Nat → Cursor → Cursor
  | 0, cursor => cursor
  | fuel + 1, cursor =>
      if cursor.column < indent && cursor.peek == ' ' then
        skipIndentation indent fuel cursor.forward
      else cursor

/-- The blank lines that follow, as their breaks in reverse order, and the
place after the indentation of the next line. -/
def blockBreaks (indent : Nat) : Nat → List Char → Cursor → List Char × Cursor
  | 0, breaks, cursor => (breaks, cursor)
  | fuel + 1, breaks, cursor =>
      let next := skipIndentation indent (fuel + 1) cursor
      match next.lineBreak? with
      | some (lineBreak, afterBreak) =>
          blockBreaks indent fuel (lineBreak :: breaks) afterBreak
      | none => (breaks, next)

/-- The character is white space that keeps a line from being folded. -/
def isBlockBlank (character : Char) : Bool :=
  character == ' ' || character == '\t'

/-- What stands between two lines of a block scalar, in reverse order: a line
break, or in a folded scalar between lines of text a space or only the blank
lines. -/
def betweenLines (folded : Bool) (lineBreak : List Char) (startsBlank nextBlank : Bool)
    (breaks : List Char) : List Char :=
  if folded && lineBreak == ['\n'] && !startsBlank && !nextBlank then
    if breaks.isEmpty then [' '] else []
  else lineBreak

/-- The lines of a block scalar.  `taken` holds the text so far in reverse
order and `breaks` the blank lines that follow it; the break of the last line
and the blank lines after it are left apart. -/
def blockLines (folded : Bool) (indent : Nat) :
    Nat → List Char → List Char → Cursor →
      List Char × List Char × List Char × Cursor
  | 0, taken, breaks, cursor => (taken, [], breaks, cursor)
  | fuel + 1, taken, breaks, cursor =>
      if cursor.column == indent && cursor.peek != '\x00' then
        let (line, lineEnd) := cursor.takeWhile fun character => !endsLine character
        let text := line.reverse ++ (breaks ++ taken)
        let (lineBreak, next) :=
          match lineEnd.lineBreak? with
          | some (lineBreak, next) => ([lineBreak], next)
          | none => ([], lineEnd)
        let (blank, last) := blockBreaks indent (fuel + 1) [] next
        if last.column == indent && last.peek != '\x00' then
          let between :=
            betweenLines folded lineBreak (isBlockBlank cursor.peek)
              (isBlockBlank last.peek) blank
          blockLines folded indent fuel (between ++ text) blank last
        else (text, lineBreak, blank, last)
      else (taken, [], breaks, cursor)

/-- The block scalar at a place inside a block with the given indentation. -/
def readBlock (fuel : Nat) (folded : Bool) (parent : Int) (cursor : Cursor) :
    Except Fault (Token × Cursor) := do
  let ((chomping, increment), header) ← readIndicators cursor.forward
  let first ← skipCommentLine header
  let least := (max (parent + 1) 1).toNat
  let (breaks, indent, start) :=
    match increment with
    | none =>
        let (breaks, column, start) := blockIndentation fuel [] 0 first
        (breaks, max least column, start)
    | some increment =>
        let indent := least + increment - 1
        let (breaks, start) := blockBreaks indent fuel [] first
        (breaks, indent, start)
  let (text, lineBreak, blank, last) := blockLines folded indent fuel [] breaks start
  let ending :=
    match chomping with
    | .strip => []
    | .clip => lineBreak
    | .keep => blank ++ lineBreak
  return (.scalar (String.ofList (ending ++ text).reverse) false, last)

end RelayPool.Yaml
