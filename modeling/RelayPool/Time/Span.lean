import RelayPool.Number.Binary64

/-!
# Time spans

A time span is a whole number of microseconds, of at most 999999999 days.  A
binary floating point count of seconds becomes a span by splitting off the
whole seconds, rounding the rest to microseconds in floating point and the
total to the nearest whole microsecond.
-/

namespace RelayPool

/-- A signed length of time in microseconds. -/
structure TimeSpan where
  microseconds : Int
  deriving DecidableEq, Repr, Inhabited

namespace TimeSpan

/-- The number of microseconds in a second. -/
def perSecond : Nat := 1000000

/-- The number of microseconds in a day. -/
def perDay : Nat := 86400 * perSecond

/-- The greatest number of whole days of a span in either direction. -/
def dayLimit : Nat := 999999999

/-- The span of no length. -/
def zero : TimeSpan := ⟨0⟩

/-- The span of a whole number of hours. -/
def ofHours (hours : Int) : TimeSpan := ⟨hours * 3600 * perSecond⟩

/-- The whole days of a span, rounded down. -/
def days (span : TimeSpan) : Int :=
  span.microseconds.fdiv perDay

/-- The microseconds of a span after its whole days. -/
def withinDay (span : TimeSpan) : Nat :=
  (span.microseconds.fmod perDay).toNat

/-- The span has at most `dayLimit` days in either direction. -/
def inRange (span : TimeSpan) : Bool :=
  span.days.natAbs ≤ dayLimit

/-- The span of a number of microseconds, if it is in range. -/
def ofMicroseconds? (microseconds : Int) : Option TimeSpan :=
  let span : TimeSpan := ⟨microseconds⟩
  if span.inRange then some span else none

/-- The span of a whole number of seconds, if it is in range. -/
def ofWholeSeconds? (seconds : Int) : Option TimeSpan :=
  ofMicroseconds? (seconds * perSecond)

/-- The whole microseconds nearest to a count of quanta of a second: the
fraction of a second is turned into microseconds by a rounded multiplication,
and the total is rounded once more. -/
def microsecondsOfQuanta (quanta : Nat) : Nat :=
  let whole := quanta / Number.Binary64.unit
  let fraction := quanta % Number.Binary64.unit
  let scaled := Number.roundToBits 53 (fraction * perSecond) 1
  Number.roundHalfEven (whole * perSecond * Number.Binary64.unit + scaled)
    Number.Binary64.unit

/-- The span of a finite number of seconds, if it is in range. -/
def ofQuanta? (negative : Bool) (quanta : Nat) : Option TimeSpan :=
  let microseconds : Int := microsecondsOfQuanta quanta
  ofMicroseconds? (if negative then -microseconds else microseconds)

/-- The length of a span in seconds, without its sign, as the nearest binary
floating point number in quanta. -/
def secondsQuanta (span : TimeSpan) : Nat :=
  Number.roundToBits 53 (span.microseconds.natAbs * Number.Binary64.unit) perSecond

end TimeSpan

end RelayPool
