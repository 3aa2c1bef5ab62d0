import Scaffold.Text.Pad

/-!
# Dates and times

Days of the proleptic Gregorian calendar from year 1 to year 9999, times of day to the microsecond,
and an optional distance from universal time.
-/
namespace Scaffold.Calendar

structure Date where
  year : Nat
  month : Nat
  day : Nat
deriving DecidableEq, Repr, Inhabited

/-- A time of day, with its distance from universal time in minutes if that is known. -/
structure DateTime where
  date : Date
  hour : Nat
  minute : Nat
  second : Nat
  microsecond : Nat
  offset : Option Int
deriving DecidableEq, Repr, Inhabited

/-- Why numbers do not make a date or a time. -/
inductive Fault
  | year (n : Nat)
  | month
  | day
  | hour
  | minute
  | second
  | offset (minutes : Int)
deriving DecidableEq, Repr

def isLeapYear (year : Nat) : Bool :=
  year % 4 == 0 && (year % 100 != 0 || year % 400 == 0)

def daysInMonth (year month : Nat) : Nat :=
  if month = 2 then if isLeapYear year then 29 else 28
  else if month = 4 ∨ month = 6 ∨ month = 9 ∨ month = 11 then 30
  else 31

/-- Days before the first of January of a year, counted from year 1. -/
def daysBeforeYear (year : Nat) : Nat :=
  let y := year - 1
  y * 365 + y / 4 - y / 100 + y / 400

def Date.make (year month day : Nat) : Except Fault Date :=
  if year = 0 ∨ 9999 < year then .error (.year year)
  else if month = 0 ∨ 12 < month then .error .month
  else if day = 0 ∨ daysInMonth year month < day then .error .day
  else .ok ⟨year, month, day⟩

def DateTime.make (year month day hour minute second microsecond : Nat) (offset : Option Int) :
    Except Fault DateTime := do
  let outOfRange := offset.filter fun minutes => 24 * 60 ≤ minutes.natAbs
  if let some minutes := outOfRange then throw (.offset minutes)
  let date ← Date.make year month day
  if 23 < hour then throw .hour
  if 59 < minute then throw .minute
  if 59 < second then throw .second
  return ⟨date, hour, minute, second, microsecond, offset⟩

namespace Date

/-- The number of the day in its year, from 1. -/
def dayOfYear (d : Date) : Nat :=
  (List.range (d.month - 1)).foldl (fun days m => days + daysInMonth d.year (m + 1)) d.day

/-- The number of the day since the start of year 1, from 1. -/
def ordinal (d : Date) : Nat := daysBeforeYear d.year + d.dayOfYear

/-- The day of the week, Sunday being 0. -/
def weekday (d : Date) : Nat := d.ordinal % 7

/-- The day of the week, Monday being 1 and Sunday 7. -/
def isoWeekday (d : Date) : Nat := if d.weekday = 0 then 7 else d.weekday

def isoWeeksInYear (year : Nat) : Nat :=
  let first := Date.isoWeekday ⟨year, 1, 1⟩
  if first = 4 ∨ (first = 3 ∧ isLeapYear year) then 53 else 52

/-- The year and the number of the week, where a week belongs to the year of its Thursday. -/
def isoWeek (d : Date) : Nat × Nat :=
  let week := (d.dayOfYear + 10 - d.isoWeekday) / 7
  if week = 0 then (d.year - 1, isoWeeksInYear (d.year - 1))
  else if isoWeeksInYear d.year < week then (d.year + 1, 1)
  else (d.year, week)

def text (d : Date) : String :=
  Text.zeroPadded 4 d.year ++ "-" ++ Text.zeroPadded 2 d.month ++ "-" ++ Text.zeroPadded 2 d.day

end Date

/-- `+05:30`, with a sign even at zero. -/
def offsetText (minutes : Int) : String :=
  (if minutes < 0 then "-" else "+") ++ Text.zeroPadded 2 (minutes.natAbs / 60) ++ ":"
    ++ Text.zeroPadded 2 (minutes.natAbs % 60)

namespace DateTime

def timeText (t : DateTime) : String :=
  Text.zeroPadded 2 t.hour ++ ":" ++ Text.zeroPadded 2 t.minute ++ ":" ++ Text.zeroPadded 2 t.second

/-- The standard form; microseconds are shown if there are any. -/
def text (t : DateTime) : String :=
  t.date.text ++ "T" ++ t.timeText
    ++ (if t.microsecond = 0 then "" else "." ++ Text.zeroPadded 6 t.microsecond)
    ++ (t.offset.map offsetText).getD ""

/-- Seconds since the start of year 1, by universal time if the distance from it is known. -/
def seconds (t : DateTime) : Int :=
  Int.ofNat (t.date.ordinal * 86400 + t.hour * 3600 + t.minute * 60 + t.second)
    - (t.offset.getD 0) * 60

end DateTime
end Scaffold.Calendar
