import RelayPool.Document.Text
import RelayPool.Duration.Component

/-!
# Durations

A duration is configured as a time span, a number of seconds or a text of
components such as `1h30m`, and it is written in hours, minutes and seconds.
-/

namespace RelayPool.Duration

/-- Why a value is no duration. -/
inductive Fault
  | invalid (value : Document)
  | outOfRange (value : Document)
  | notANumber

/-- The sentence that reports a fault.  A value that cannot be shown is
reported by the reason for that. -/
def Fault.message : Fault → String
  | .invalid value =>
      match value.quotedText? with
      | some text => "invalid duration " ++ text
      | none => Number.digitLimitMessage
  | .outOfRange value =>
      match value.quotedText? with
      | some text => "duration out of range " ++ text
      | none => Number.digitLimitMessage
  | .notANumber => "cannot convert float NaN to integer"

/-- The span of a number of seconds; `value` is what is reported when it is
out of range. -/
def ofSeconds (seconds : Number.Binary64) (value : Document) :
    Except Fault TimeSpan :=
  match seconds with
  | .nan => .error .notANumber
  | .infinite _ => .error (.outOfRange value)
  | .finite negative quanta =>
      match TimeSpan.ofQuanta? negative quanta with
      | some span => .ok span
      | none => .error (.outOfRange value)

/-- The sum of the components in seconds, from the left and rounded at each
step. -/
def totalSeconds (components : List Component) : Number.Binary64 :=
  components.foldl (fun total component => total.add component.seconds)
    (.finite false 0)

/-- A duration text without white space around it: an optional sign, and then
a single zero or components. -/
def ofText (text : String) : Except Fault TimeSpan :=
  let (negative, rest) := Number.splitSign (Text.trimmed text.toList)
  if rest = ['0'] then .ok .zero
  else if isSequence rest then
    let total := totalSeconds (components rest)
    ofSeconds (if negative then total.negate else total) (.text text)
  else .error (.invalid (.text text))

/-- The duration that a configured value means. -/
def ofDocument (value : Document) : Except Fault TimeSpan :=
  match value with
  | .span span => .ok span
  | .int seconds =>
      match TimeSpan.ofWholeSeconds? seconds with
      | some span => .ok span
      | none => .error (.outOfRange value)
  | .float seconds => ofSeconds seconds value
  | .text text => ofText text
  | _ => .error (.invalid value)

/-- A duration in hours, minutes and seconds: leading zero parts are left out,
and the seconds have six significant digits. -/
def text (span : TimeSpan) : String :=
  let quanta := span.secondsQuanta
  if quanta = 0 then "0s"
  else
    let hour := 3600 * Number.Binary64.unit
    let minute := 60 * Number.Binary64.unit
    let hours := quanta / hour
    let minutes := quanta % hour / minute
    let seconds := quanta % hour % minute
    (if span.microseconds < 0 then "-" else "") ++
      (if hours = 0 then "" else toString hours ++ "h") ++
      (if hours = 0 ∧ minutes = 0 then "" else toString minutes ++ "m") ++
      Number.sixDigitText seconds ++ "s"

end RelayPool.Duration
