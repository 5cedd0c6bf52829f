import RelayPool.Text.DecimalDigit

/-!
# Halves of surrogate pairs

An escape in a document may write half of a surrogate pair, which is no
character.  A text keeps it as a character of plane 9, where none is assigned,
so that it can be compared and shown; but such a text has no encoding.
-/

namespace RelayPool.Text

/-- The distance between a half and the character that keeps it. -/
def halfDistance : Nat := 0x90000

/-- A code point is half of a surrogate pair. -/
def isHalfCode (code : Nat) : Bool :=
  0xD800 ≤ code && code < 0xE000

/-- The character with a code point, or the one that keeps a half. -/
def ofCode (code : Nat) : Char :=
  Char.ofNat (if isHalfCode code then halfDistance + code else code)

/-- The code point that a character stands for. -/
def codeOf (character : Char) : Nat :=
  let code := character.toNat
  if halfDistance ≤ code && isHalfCode (code - halfDistance) then code - halfDistance
  else code

/-- A character that keeps a half.  The characters U+9D800 to U+9DFFF, to which nothing
is assigned, are used up by this: a text that holds one of them itself is no text of the
model, and what is said of texts without halves leaves it out. -/
def isHalf (character : Char) : Bool :=
  isHalfCode (codeOf character)

/-- A half that stands for a byte that encodes no character. -/
def isByteHalf (character : Char) : Bool :=
  0xDC80 ≤ codeOf character && codeOf character ≤ 0xDCFF

/-- A half that stands for no byte. -/
def isNoByteHalf (character : Char) : Bool :=
  isHalf character && !isByteHalf character

/-- A run of halves that cannot be encoded: the first of them, and the
positions of the first and the last. -/
structure HalfRun where
  code : Nat
  first : Nat
  last : Nat
  deriving DecidableEq, Repr

/-- The sentence that reports the run. -/
def HalfRun.message (run : HalfRun) : String :=
  "'utf-8' codec can't encode " ++
    (if run.first = run.last then
      "character '\\u" ++ String.ofList (hexDigits 4 run.code) ++ "' in position " ++
        toString run.first
    else
      "characters in position " ++ toString run.first ++ "-" ++ toString run.last) ++
    ": surrogates not allowed"

/-- The first run of halves in a text that begins with one of those that are
refused; `position` counts the characters before the text. -/
def refusedHalves? (refused : Char → Bool) (position : Nat) : List Char → Option HalfRun
  | [] => none
  | character :: rest =>
      if refused character then
        some ⟨codeOf character, position, position + (rest.takeWhile isHalf).length⟩
      else refusedHalves? refused (position + 1) rest

end RelayPool.Text
