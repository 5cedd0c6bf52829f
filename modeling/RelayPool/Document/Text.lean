import RelayPool.Document.Basic
import RelayPool.Number.Numeral
import RelayPool.Text.Quoted

/-!
# Texts of documents

A value as it is shown inside messages.  The quoted form tells the type of
every value; the plain form, which names a key, leaves texts as they are.
Neither exists for a value with an integer of too many digits.
-/

namespace RelayPool

/-- A number with zeros before it up to a width. -/
def paddedText (width number : Nat) : String :=
  let digits := Nat.toDigits 10 number
  String.ofList (List.replicate (width - digits.length) '0' ++ digits)

/-- Texts with commas between them. -/
def commaText (texts : List String) : String :=
  String.intercalate ", " texts

namespace TimeSpan

/-- A span by its days, seconds and microseconds that are not zero. -/
def quotedText (span : TimeSpan) : String :=
  let seconds := span.withinDay / perSecond
  let microseconds := span.withinDay % perSecond
  let parts :=
    (if span.days = 0 then [] else ["days=" ++ Number.intText span.days]) ++
      (if seconds = 0 then [] else ["seconds=" ++ toString seconds]) ++
      (if microseconds = 0 then [] else ["microseconds=" ++ toString microseconds])
  "datetime.timedelta(" ++ (if parts.isEmpty then "0" else commaText parts) ++ ")"

/-- A span by its days, if it has any, and a time of day. -/
def plainText (span : TimeSpan) : String :=
  let seconds := span.withinDay / perSecond
  let microseconds := span.withinDay % perSecond
  (if span.days = 0 then ""
    else Number.intText span.days ++
      (if span.days.natAbs = 1 then " day, " else " days, ")) ++
    toString (seconds / 3600) ++ ":" ++ paddedText 2 (seconds / 60 % 60) ++ ":" ++
    paddedText 2 (seconds % 60) ++
    (if microseconds = 0 then "" else "." ++ paddedText 6 microseconds)

end TimeSpan

namespace Calendar

/-- The sentence that reports a fault. -/
def Fault.message : Fault → String
  | .year value => "year " ++ toString value ++ " is out of range"
  | .month => "month must be in 1..12"
  | .day => "day is out of range for month"
  | .hour => "hour must be in 0..23"
  | .minute => "minute must be in 0..59"
  | .second => "second must be in 0..59"
  | .offset span =>
      "offset must be a timedelta strictly between -timedelta(hours=24) and " ++
        "timedelta(hours=24), not " ++ span.quotedText ++ "."

/-- A date by its three numbers. -/
def Date.quotedText (date : Date) : String :=
  "datetime.date(" ++
    commaText [toString date.year, toString date.month, toString date.day] ++ ")"

/-- A date as year, month and day with hyphens. -/
def Date.plainText (date : Date) : String :=
  paddedText 4 date.year ++ "-" ++ paddedText 2 date.month ++ "-" ++
    paddedText 2 date.day

/-- The distance from universal time by its constructor. -/
def quotedOffset (offset : Int) : String :=
  if offset = 0 then "datetime.timezone.utc"
  else
    "datetime.timezone(" ++
      TimeSpan.quotedText ⟨offset * 60 * TimeSpan.perSecond⟩ ++ ")"

/-- The distance from universal time as a sign, hours and minutes. -/
def plainOffset (offset : Int) : String :=
  (if offset < 0 then "-" else "+") ++ paddedText 2 (offset.natAbs / 60) ++ ":" ++
    paddedText 2 (offset.natAbs % 60)

/-- A point in time by its numbers; seconds and microseconds are left out
from the end while they are zero. -/
def Instant.quotedText (instant : Instant) : String :=
  let numbers :=
    [instant.date.year, instant.date.month, instant.date.day, instant.hour,
      instant.minute] ++
    (if instant.microsecond ≠ 0 then [instant.second, instant.microsecond]
      else if instant.second ≠ 0 then [instant.second]
      else [])
  let offset :=
    match instant.offset with
    | none => []
    | some offset => ["tzinfo=" ++ quotedOffset offset]
  "datetime.datetime(" ++
    commaText (numbers.map (fun number => toString number) ++ offset) ++ ")"

/-- A point in time as a date, a time of day and the distance from universal
time. -/
def Instant.plainText (instant : Instant) : String :=
  instant.date.plainText ++ " " ++ paddedText 2 instant.hour ++ ":" ++
    paddedText 2 instant.minute ++ ":" ++ paddedText 2 instant.second ++
    (if instant.microsecond = 0 then "" else "." ++ paddedText 6 instant.microsecond) ++
    (match instant.offset with
    | none => ""
    | some offset => plainOffset offset)

end Calendar

namespace Document

/-- The mark of a collection that is met again inside itself. -/
def againText : Collection → String
  | .list => "[...]"
  | .set => "set(...)"
  | .map => "\x7b...\x7d"

/-- A truth value. -/
def boolText (value : Bool) : String :=
  if value then "True" else "False"

mutual

/-- A value in quoted form. -/
def quotedText? : Document → Option String
  | .null => some "None"
  | .bool value => some (boolText value)
  | .int value => Number.intText? value
  | .float value => some value.text
  | .text value => some (Text.quoted value)
  | .bytes value => some (Text.quotedBytes value)
  | .date value => some value.quotedText
  | .instant value => some value.quotedText
  | .span value => some value.quotedText
  | .list items => (itemTexts? items).map fun texts => "[" ++ commaText texts ++ "]"
  | .pair first second => do
      let key ← quotedText? first
      let value ← quotedText? second
      return "(" ++ key ++ ", " ++ value ++ ")"
  | .set [] => some "set()"
  | .set (member :: members) => do
      let first ← quotedText? member
      let texts ← itemTexts? members
      return "\x7b" ++ commaText (first :: texts) ++ "\x7d"
  | .map entries => (entryTexts? entries).map fun texts => "\x7b" ++ commaText texts ++ "\x7d"
  | .again kind => some (againText kind)

/-- The quoted forms of the items of a list. -/
def itemTexts? : List Document → Option (List String)
  | [] => some []
  | item :: items => do
      let first ← quotedText? item
      let texts ← itemTexts? items
      return first :: texts

/-- The quoted forms of the entries of a mapping. -/
def entryTexts? : List (Document × Document) → Option (List String)
  | [] => some []
  | (key, value) :: entries => do
      let first ← quotedText? key
      let second ← quotedText? value
      let texts ← entryTexts? entries
      return (first ++ ": " ++ second) :: texts

end

/-- A value in plain form. -/
def plainText? : Document → Option String
  | .text value => some value
  | .date value => some value.plainText
  | .instant value => some value.plainText
  | .span value => some value.plainText
  | value => value.quotedText?

end Document

end RelayPool
