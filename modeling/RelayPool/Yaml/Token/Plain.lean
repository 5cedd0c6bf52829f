import RelayPool.Yaml.Token.Basic

/-!
# Plain scalars

Scalars without quotes.  They end at a comment, at a colon before white space,
at a bracket or comma inside brackets, and in a block at a line that is not
indented deeper than the block.  Line breaks inside them are folded.
-/

namespace RelayPool.Yaml

/-- The length of the part of a plain scalar up to the next white space or
indicator, added to `count`. -/
def plainLength (flow : Bool) (count : Nat) : List Char → Nat
  | [] => count
  | character :: rest =>
      let next := rest.headD '\x00'
      if endsWord character ||
          (character == ':' &&
            (endsWord next || (flow && flowIndicators.contains next))) ||
          (flow && (character == '?' || flowIndicators.contains character)) then
        count
      else plainLength flow (count + 1) rest

/-- The line breaks and spaces at the start of a line inside a plain scalar,
in reverse order and without the spaces; nothing when a document ends there. -/
def plainBreaks :
    Nat → List Char → Cursor → Except Fault (Option (List Char) × Cursor)
  | 0, breaks, cursor => .ok (some breaks, cursor)
  | fuel + 1, breaks, cursor =>
      if cursor.peek == ' ' then plainBreaks fuel breaks cursor.forward
      else
        match cursor.lineBreak? with
        | none => .ok (some breaks, cursor)
        | some (lineBreak, next) => do
            if ← next.atSeparator then return (none, next)
            plainBreaks fuel (lineBreak :: breaks) next

/-- What separates two parts of a scalar over a line break: the single line
feed becomes a space, and more line breaks stay without the first. -/
def foldedBreaks (lineBreak : Char) (breaks : List Char) : List Char :=
  if lineBreak != '\n' then lineBreak :: breaks
  else if breaks.isEmpty then [' ']
  else breaks

/-- The white space between two parts of a plain scalar, the place after it,
and whether it holds a line break.  It is empty where the scalar ends. -/
def plainSpaces (fuel : Nat) (cursor : Cursor) :
    Except Fault (List Char × Cursor × Bool) :=
  let (spaces, afterSpaces) := cursor.takeWhile (· == ' ')
  match afterSpaces.lineBreak? with
  | none => .ok (spaces, afterSpaces, false)
  | some (lineBreak, next) => do
      if ← next.atSeparator then return ([], next, true)
      match ← plainBreaks fuel [] next with
      | (none, last) => return ([], last, true)
      | (some breaks, last) =>
          return (foldedBreaks lineBreak breaks.reverse, last, true)

/-- A plain scalar from its first part on.  `taken` holds the text so far in
reverse order, `spaces` what separates it from the next part, and
`brokeLine` whether a line break came last.  Whether a colon ends the scalar
depends on the character behind it, which is asked for. -/
def plainParts (flow : Bool) (indent : Int) :
    Nat → List Char → List Char → Bool → Cursor →
      Except Fault (List Char × Bool × Cursor)
  | 0, taken, _, brokeLine, cursor => .ok (taken, brokeLine, cursor)
  | fuel + 1, taken, spaces, brokeLine, cursor => do
      let (part, afterPart) := cursor.take (plainLength flow 0 cursor.rest)
      if afterPart.peek == ':' then afterPart.demand 2
      if part.isEmpty then return (taken, brokeLine, cursor)
      let text := part.reverse ++ (spaces.reverse ++ taken)
      let (next, last, broke) ← plainSpaces (fuel + 1) afterPart
      if next.isEmpty || last.peek == '#' ||
          (!flow && (last.column : Int) < indent) then
        return (text, broke, last)
      plainParts flow indent fuel text next broke last

/-- The plain scalar at a place, whether a line break came last, and the place
after it. -/
def readPlain (fuel : Nat) (flow : Bool) (indent : Int) (cursor : Cursor) :
    Except Fault (Token × Bool × Cursor) := do
  let (taken, brokeLine, last) ← plainParts flow indent fuel [] [] false cursor
  return (.scalar (String.ofList taken.reverse) true, brokeLine, last)

end RelayPool.Yaml
