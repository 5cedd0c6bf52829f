import RelayPool.Text.Half
import RelayPool.Text.Printable

/-!
# Quoted texts

A text as it is shown inside messages: between quotes, with a backslash
escape for the quote itself, the backslash and every character that cannot be
printed.
-/

namespace RelayPool.Text

/-- A text is quoted with `'`, or with `"` when it holds `'` and no `"`. -/
def delimiter (holdsSingle holdsDouble : Bool) : Char :=
  if holdsSingle && !holdsDouble then '"' else '\''

/-- A code point in the shortest of the forms of two, four and eight
hexadecimal digits. -/
def escapedCode (code : Nat) : List Char :=
  if code < 0x100 then '\\' :: 'x' :: hexDigits 2 code
  else if code < 0x10000 then '\\' :: 'u' :: hexDigits 4 code
  else '\\' :: 'U' :: hexDigits 8 code

/-- One character of a quoted text. -/
def quotedChar (quote character : Char) : List Char :=
  if character = quote ∨ character = '\\' then ['\\', character]
  else if character = '\t' then ['\\', 't']
  else if character = '\n' then ['\\', 'n']
  else if character = '\r' then ['\\', 'r']
  else if isPrintable character then [character]
  else escapedCode (codeOf character)

/-- The quoted form of a list of characters. -/
def quotedChars (characters : List Char) : List Char :=
  let quote := delimiter (characters.contains '\'') (characters.contains '"')
  quote :: (characters.flatMap (quotedChar quote) ++ [quote])

/-- The quoted form of a text. -/
def quoted (text : String) : String :=
  String.ofList (quotedChars text.toList)

/-- One byte of a quoted byte string: only ASCII is printable. -/
def quotedByte (quote : Char) (byte : UInt8) : List Char :=
  let character := Char.ofNat byte.toNat
  if character = quote ∨ character = '\\' then ['\\', character]
  else if character = '\t' then ['\\', 't']
  else if character = '\n' then ['\\', 'n']
  else if character = '\r' then ['\\', 'r']
  else if 0x20 ≤ byte ∧ byte < 0x7F then [character]
  else '\\' :: 'x' :: hexDigits 2 byte.toNat

/-- The quoted form of a byte string, marked with a `b` before the quote. -/
def quotedBytes (bytes : List UInt8) : String :=
  let quote := delimiter (bytes.contains 39) (bytes.contains 34)
  String.ofList ('b' :: quote :: (bytes.flatMap (quotedByte quote) ++ [quote]))

end RelayPool.Text
