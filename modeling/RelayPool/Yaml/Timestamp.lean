import RelayPool.Number.Numeral
import RelayPool.Time.Calendar

/-!
# Timestamps

Dates and points in time as they are written in documents: year, month and
day, and behind them an optional time of day, fraction of a second and
distance from universal time.
-/

namespace RelayPool.Yaml

/-- The distance from universal time as written: none is meant by `Z`. -/
structure ZoneText where
  negative : Bool
  hours : Nat
  minutes : Nat
  deriving DecidableEq, Repr

/-- The time of day as written. -/
structure ClockText where
  hour : Nat
  minute : Nat
  second : Nat
  microsecond : Nat
  zone : Option ZoneText
  deriving DecidableEq, Repr

/-- A timestamp as written. -/
structure TimestampText where
  year : Nat
  month : Nat
  day : Nat
  clock : Option ClockText
  deriving DecidableEq, Repr

namespace TimestampText

/-- An ASCII digit. -/
def isDigit (character : Char) : Bool :=
  '0' ≤ character && character ≤ '9'

/-- Between `least` and `most` digits at the front of a text, as many as there
are. -/
def digits? (least most : Nat) (text : List Char) : Option (Nat × List Char) :=
  let digits := (text.take most).takeWhile isDigit
  if least ≤ digits.length then
    some (Number.digitsValue 10 digits, text.drop digits.length)
  else none

/-- The text behind a sign that must come. -/
def sign? (sign : Char) : List Char → Option (List Char)
  | character :: rest => if character = sign then some rest else none
  | [] => none

/-- The character is a space or a tab. -/
def isGap (character : Char) : Bool :=
  character == ' ' || character == '\t'

/-- The text behind the separator of date and time: a letter or white space. -/
def gap? (text : List Char) : Option (List Char) :=
  match text with
  | 'T' :: rest | 't' :: rest => some rest
  | character :: _ => if isGap character then some (text.dropWhile isGap) else none
  | [] => none

/-- A fraction of a second in microseconds; digits after the sixth are
dropped. -/
def fraction (text : List Char) : Nat × List Char :=
  match text with
  | '.' :: rest =>
      let digits := (rest.takeWhile isDigit).take 6
      (Number.digitsValue 10 digits * Nat.pow 10 (6 - digits.length), rest.dropWhile isDigit)
  | _ => (0, text)

/-- The distance from universal time, which ends the text. -/
def zone? (text : List Char) : Option (Option ZoneText) :=
  if text.isEmpty then some none
  else
    match text.dropWhile isGap with
    | ['Z'] => some (some ⟨false, 0, 0⟩)
    | sign :: rest =>
        if sign == '-' || sign == '+' then do
          let (hours, rest) ← digits? 1 2 rest
          if rest.isEmpty then return some ⟨sign == '-', hours, 0⟩
          let (minutes, rest) ← digits? 2 2 (← sign? ':' rest)
          if rest.isEmpty then return some ⟨sign == '-', hours, minutes⟩
          none
        else none
    | [] => none

/-- The time of day behind a date. -/
def clock? (text : List Char) : Option ClockText := do
  let (hour, rest) ← digits? 1 2 (← gap? text)
  let (minute, rest) ← digits? 2 2 (← sign? ':' rest)
  let (second, rest) ← digits? 2 2 (← sign? ':' rest)
  let (microsecond, rest) := fraction rest
  let zone ← zone? rest
  return { hour, minute, second, microsecond, zone }

/-- The timestamp that a text writes. -/
def parse? (text : List Char) : Option TimestampText := do
  let (year, rest) ← digits? 4 4 text
  let (month, rest) ← digits? 1 2 (← sign? '-' rest)
  let (day, rest) ← digits? 1 2 (← sign? '-' rest)
  if rest.isEmpty then return { year, month, day, clock := none }
  let clock ← clock? rest
  return { year, month, day, clock := some clock }

/-- The text is a timestamp without being marked as one: a date alone has two
digits for the month and for the day. -/
def isPlain (text : List Char) : Bool :=
  match parse? text with
  | some timestamp => timestamp.clock.isSome || text.length == 10
  | none => false

end TimestampText

end RelayPool.Yaml
