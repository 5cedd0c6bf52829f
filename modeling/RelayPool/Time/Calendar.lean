import RelayPool.Time.Span

/-!
# Calendar dates and points in time

Dates of the Gregorian calendar from year 1 to year 9999, and points in time
on such a date with an optional distance from Coordinated Universal Time.
-/

namespace RelayPool.Calendar

/-- Why some numbers are no date or no point in time. -/
inductive Fault
  | year (value : Nat)
  | month
  | day
  | hour
  | minute
  | second
  | offset (span : TimeSpan)
  deriving DecidableEq, Repr

/-- A date. -/
structure Date where
  year : Nat
  month : Nat
  day : Nat
  deriving DecidableEq, Repr

/-- A point in time; `offset` is the distance of its local time from
Coordinated Universal Time in minutes, where it is known. -/
structure Instant where
  date : Date
  hour : Nat
  minute : Nat
  second : Nat
  microsecond : Nat
  offset : Option Int
  deriving DecidableEq, Repr

/-- A leap year of the Gregorian calendar. -/
def isLeapYear (year : Nat) : Bool :=
  year % 4 == 0 && (year % 100 != 0 || year % 400 == 0)

/-- The number of days of a month. -/
def daysInMonth (year month : Nat) : Nat :=
  if month = 2 then (if isLeapYear year then 29 else 28)
  else if month = 4 ∨ month = 6 ∨ month = 9 ∨ month = 11 then 30
  else 31

/-- The date with the given numbers, checked from the year on. -/
def Date.ofNumbers (year month day : Nat) : Except Fault Date :=
  if year = 0 ∨ 9999 < year then .error (.year year)
  else if month = 0 ∨ 12 < month then .error .month
  else if day = 0 ∨ daysInMonth year month < day then .error .day
  else .ok ⟨year, month, day⟩

/-- The point in time with the given numbers, checked from the date on. -/
def Instant.ofNumbers (date : Except Fault Date)
    (hour minute second microsecond : Nat) (offset : Option Int) :
    Except Fault Instant := do
  let date ← date
  if 23 < hour then throw .hour
  if 59 < minute then throw .minute
  if 59 < second then throw .second
  return ⟨date, hour, minute, second, microsecond, offset⟩

/-- The distance from Coordinated Universal Time of the given hours and
minutes, which is less than a day. -/
def offsetOfNumbers (negative : Bool) (hours minutes : Nat) : Except Fault Int :=
  let size : Int := hours * 60 + minutes
  let offset := if negative then -size else size
  if size < 1440 then .ok offset
  else .error (.offset ⟨offset * 60 * TimeSpan.perSecond⟩)

/-- The number of days before the first day of a year. -/
def daysBeforeYear (year : Nat) : Nat :=
  let before := year - 1
  before * 365 + before / 4 - before / 100 + before / 400

/-- The number of days from the first day of year 1 to a date. -/
def Date.ordinal (date : Date) : Nat :=
  (List.range (date.month - 1)).foldl
    (fun days month => days + daysInMonth date.year (month + 1))
    (daysBeforeYear date.year + date.day)

/-- The minutes from the first day of year 1 to a point in local time. -/
def Instant.localMinutes (instant : Instant) : Int :=
  (instant.date.ordinal : Int) * 1440 + instant.hour * 60 + instant.minute

/-- Two points in time are the same when neither has an offset and their
numbers agree, or both have one and they agree in universal time. -/
def Instant.same (first second : Instant) : Bool :=
  match first.offset, second.offset with
  | none, none => first == second
  | some offset, some offset' =>
      first.localMinutes - offset == second.localMinutes - offset' &&
        first.second == second.second && first.microsecond == second.microsecond
  | _, _ => false

end RelayPool.Calendar
