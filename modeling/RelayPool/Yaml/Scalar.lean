import RelayPool.Text.Lowercase
import RelayPool.Yaml.Fault
import RelayPool.Yaml.Tag

/-!
# Values of scalars

The value that the text of a scalar has under each type.
-/

namespace RelayPool.Yaml.Scalar

/-- A value, or the fault of the value. -/
abbrev Result := Except ValueFault

/-- A text without underscores. -/
def withoutMarks (text : List Char) : List Char :=
  text.filter (· ≠ '_')

/-- A sign and the text behind it; an empty text has neither. -/
def splitSign (text : List Char) : Result (Bool × List Char) :=
  if text.isEmpty then .error .emptyNumeral else .ok (Number.splitSign text)

/-- The integer that a text writes in a base. -/
def readInt (base : Nat) (text : List Char) : Result Int :=
  (Number.readInt base (String.ofList text)).mapError .numeral

/-- The floating point number that a text writes. -/
def readFloat (text : List Char) : Result Number.Binary64 :=
  (Number.readFloat (String.ofList text)).mapError .numeral

/-- The number with the given digits to the base of sixty. -/
def ofSixtieths (digits : List Int) : Int :=
  digits.foldl (fun value digit => value * 60 + digit) 0

/-- An integer without its sign.  A zero in front marks the base eight. -/
def magnitude (text : List Char) : Result Int :=
  match text with
  | [] => .error .emptyNumeral
  | ['0'] => .ok 0
  | '0' :: 'b' :: digits => readInt 2 digits
  | '0' :: 'x' :: digits => readInt 16 digits
  | '0' :: _ => readInt 8 text
  | _ =>
      if text.contains ':' then
        ((Text.separate ':' text).mapM (readInt 10)).map ofSixtieths
      else readInt 10 text

/-- An integer. -/
def int (text : String) : Result Int := do
  let (negative, rest) ← splitSign (withoutMarks text.toList)
  let value ← magnitude rest
  return if negative then -value else value

/-- Adds digits to the base of sixty to a floating point number, the last one
first, where `scale` is the worth of the next. -/
def addSixtieths (total : Number.Binary64) (scale : Int) :
    List Number.Binary64 → Result Number.Binary64
  | [] => .ok total
  | digit :: rest =>
      let worth := Number.Binary64.ofInt scale
      if worth.isInfinite then .error .scaleTooLarge
      else addSixtieths (total.add (digit.mul worth)) (scale * 60) rest

/-- The sign of a floating point number and what is written behind it. -/
def floatParts (text : String) : Result (Bool × List Char) :=
  splitSign (Text.lowercase (withoutMarks text.toList))

/-- A text is the name of the value that is no number. -/
def namesNan (text : String) : Bool :=
  match floatParts text with
  | .ok (_, rest) => rest == ".nan".toList
  | .error _ => false

/-- A floating point number. -/
def float (text : String) : Result Number.Binary64 := do
  let (negative, rest) ← floatParts text
  let signed (number : Number.Binary64) :=
    if negative then number.negate else number
  if rest = ".inf".toList then return signed (.infinite false)
  if rest = ".nan".toList then return .nan
  if rest.contains ':' then
    let digits ← (Text.separate ':' rest).mapM readFloat
    return signed (← addSixtieths (.finite false 0) 1 digits.reverse)
  return signed (← readFloat rest)

/-- A truth value. -/
def bool (text : String) : Result Bool :=
  let word := String.ofList (Text.lowercase text.toList)
  match Tag.truthValues.lookup word with
  | some value => .ok value
  | none => .error (.truthValue word)

/-- The value of a character of a byte string in base 64. -/
def sextet? (character : Char) : Option Nat :=
  let code := character.toNat
  if 'A' ≤ character ∧ character ≤ 'Z' then some (code - 65)
  else if 'a' ≤ character ∧ character ≤ 'z' then some (code - 71)
  else if '0' ≤ character ∧ character ≤ '9' then some (code + 4)
  else if character = '+' then some 62
  else if character = '/' then some 63
  else none

/-- The bytes of a text in base 64.  `place` counts the characters of the
current group of four, `left` holds their bits that are not yet in a byte, and
`padding` counts the signs that fill up a group.  Other characters are
skipped. -/
def base64 (place left padding : Nat) : List Char → Option (List UInt8)
  | [] => if place = 0 then some [] else none
  | '=' :: rest =>
      if 2 ≤ place then
        if 4 ≤ place + (padding + 1) then some []
        else base64 place left (padding + 1) rest
      else base64 place left padding rest
  | character :: rest =>
      match sextet? character with
      | none => base64 place left padding rest
      | some value =>
          if place = 0 then base64 1 value 0 rest
          else if place = 1 then
            (base64 2 (value % 16) 0 rest).map
              (UInt8.ofNat (left * 4 + value / 16) :: ·)
          else if place = 2 then
            (base64 3 (value % 4) 0 rest).map
              (UInt8.ofNat (left * 16 + value / 4) :: ·)
          else (base64 0 0 0 rest).map (UInt8.ofNat (left * 64 + value) :: ·)

/-- A byte string, which is written in ASCII. -/
def binary? (text : String) : Option (List UInt8) :=
  if text.toList.all fun character => character.toNat < 128 then
    base64 0 0 0 text.toList
  else none

/-- A date or a point in time. -/
def timestamp (text : String) : Result Document :=
  match TimestampText.parse? (Tag.withoutFinalBreak text.toList) with
  | none => .error .timestamp
  | some written =>
      let date := Calendar.Date.ofNumbers written.year written.month written.day
      match written.clock with
      | none => (date.map .date).mapError .calendar
      | some clock =>
          Except.mapError .calendar do
            let offset ←
              match clock.zone with
              | none => pure none
              | some zone =>
                  some <$> Calendar.offsetOfNumbers zone.negative zone.hours zone.minutes
            let instant ←
              Calendar.Instant.ofNumbers date clock.hour clock.minute clock.second
                clock.microsecond offset
            return .instant instant

/-- The value of a scalar under a type.  Types of collections, marks of keys
and unknown types have none. -/
def value (tag : Tag) (text : String) : Except Fault Document :=
  match tag with
  | .null => .ok .null
  | .text => .ok (.text text)
  | .bool => ((bool text).map .bool).mapError .value
  | .int => ((int text).map .int).mapError .value
  | .float => ((float text).map .float).mapError .value
  | .timestamp => (timestamp text).mapError .value
  | .binary =>
      match binary? text with
      | some bytes => .ok (.bytes bytes)
      | none => .error .malformed
  | _ => .error .malformed

end RelayPool.Yaml.Scalar
