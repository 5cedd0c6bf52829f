import RelayPool.Text.Utf8
import RelayPool.Yaml.Token.Block
import RelayPool.Yaml.Token.Quoted

/-!
# Tags, anchors, aliases and directives

The marks that name a node or its type, and the lines that say how the types
of a document are written.
-/

namespace RelayPool.Yaml

/-- The name behind the sign of an anchor or an alias. -/
def readName (cursor : Cursor) : Except Fault (String × Cursor) :=
  let (name, last) := cursor.forward.takeWhile isNameChar
  let next := last.peek
  if name.isEmpty then .error last.refusal
  else if endsWord next ||
      ['?', ':', ',', ']', '\x7d', '%', '@', '\x60'].contains next then
    .ok (String.ofList name, last)
  else .error last.refusal

/-- A character of the suffix of a tag that stands for itself. -/
def isTagChar (character : Char) : Bool :=
  isNameChar character || ";/?:@&=+$,.!~*'()[]".toList.contains character

/-- The bytes of the percent escapes that follow, in reverse order. -/
def escapedBytes : Nat → List UInt8 → Cursor → Except Fault (List UInt8 × Cursor)
  | 0, _, _ => .error .malformed
  | fuel + 1, bytes, cursor =>
      if cursor.peek != '%' then .ok (bytes, cursor)
      else
        let (digits, next) := cursor.forward.take 2
        match digits.length, hexNumber? digits with
        | 2, some value => escapedBytes fuel (UInt8.ofNat value :: bytes) next
        | _, _ => .error (shortfall digits next)

/-- The suffix of a tag, put in reverse order before what is already taken. -/
def tagParts : Nat → List Char → Cursor → Except Fault (List Char × Cursor)
  | 0, _, _ => .error .malformed
  | fuel + 1, taken, cursor => do
      let (part, next) := cursor.takeWhile isTagChar
      let taken := part.reverse ++ taken
      if next.peek != '%' then return (taken, next)
      let (bytes, last) ← escapedBytes (fuel + 1) [] next
      match Text.Utf8.decode bytes.reverse with
      | .ok characters => tagParts fuel (characters.reverse ++ taken) last
      | .error _ => throw last.refusal

/-- The suffix of a tag, which is not empty. -/
def readSuffix (fuel : Nat) (cursor : Cursor) : Except Fault (String × Cursor) := do
  let (taken, last) ← tagParts fuel [] cursor
  if last.index = cursor.index then throw last.refusal
  return (String.ofList taken.reverse, last)

/-- The handle of a tag: a name between exclamation marks, or a single mark. -/
def readHandle (cursor : Cursor) : Except Fault (String × Cursor) :=
  let (name, last) := cursor.forward.takeWhile isNameChar
  if cursor.peek != '!' then .error cursor.refusal
  else if cursor.peekAt 1 == ' ' then .ok ("!", cursor.forward)
  else if last.peek == '!' then
    .ok ("!" ++ String.ofList name ++ "!", last.forward)
  else .error last.refusal

/-- The tag at a place. -/
def readTag (fuel : Nat) (cursor : Cursor) : Except Fault (Token × Cursor) := do
  let (tag, last) ←
    if cursor.peekAt 1 == '<' then do
      let (suffix, last) ← readSuffix fuel (cursor.forwardBy 2)
      if last.peek != '>' then throw last.refusal
      pure (Token.tag none suffix, last.forward)
    else if endsWord (cursor.peekAt 1) then
      pure (Token.tag none "!", cursor.forward)
    else do
      let (word, wordEnd) := cursor.forward.takeWhile fun character =>
        !endsLineOrSpace character
      let (handle, afterHandle) ←
        if word.contains '!' then readHandle cursor
        else
          match wordEnd.blocked? with
          | some fault => throw fault
          | none => pure ("!", cursor.forward)
      let (suffix, last) ← readSuffix fuel afterHandle
      pure (Token.tag (some handle) suffix, last)
  if endsLineOrSpace last.peek then return (tag, last)
  throw last.refusal

/-- A number in a directive. -/
def readDirectiveNumber (cursor : Cursor) : Except Fault (Int × Cursor) := do
  let (digits, last) := cursor.takeWhile fun character =>
    '0' ≤ character && character ≤ '9'
  if digits.isEmpty then throw last.refusal
  match Number.readInt 10 (String.ofList digits) with
  | .ok value => return (value, last)
  | .error fault => throw (.value (.numeral fault))

/-- The version in a directive. -/
def readVersion (cursor : Cursor) : Except Fault (Directive × Cursor) := do
  let (major, next) ← readDirectiveNumber cursor.skipSpaces
  if next.peek != '.' then throw next.refusal
  let (_, last) ← readDirectiveNumber next.forward
  if endsLineOrSpace last.peek then return (.version major, last)
  throw last.refusal

/-- The handle in a directive and what it stands for. -/
def readTagHandle (fuel : Nat) (cursor : Cursor) :
    Except Fault (Directive × Cursor) := do
  let (handle, next) ← readHandle cursor.skipSpaces
  if next.peek != ' ' then throw next.refusal
  let (expansion, last) ← readSuffix fuel next.skipSpaces
  if endsLineOrSpace last.peek then return (.tagHandle handle expansion, last)
  throw last.refusal

/-- The directive at a place, with the rest of its line. -/
def readDirective (fuel : Nat) (cursor : Cursor) : Except Fault (Token × Cursor) := do
  let (name, next) := cursor.forward.takeWhile isNameChar
  if name.isEmpty || !endsLineOrSpace next.peek then throw next.refusal
  let (directive, last) ←
    if name = "YAML".toList then readVersion next
    else if name = "TAG".toList then readTagHandle fuel next
    else pure (Directive.other, next.skipLine)
  return (.directive directive, ← skipCommentLine last)

end RelayPool.Yaml
