/-!
# The calendar

Dates of the proleptic Gregorian calendar from seconds since the start of 1970, all in universal
time.
-/

namespace TextTemplate.Time

/-- A date and a time of day. -/
structure Moment where
  year : Int
  /-- From 1 to 12. -/
  month : Nat
  /-- From 1 to 31. -/
  day : Nat
  hour : Nat
  minute : Nat
  second : Nat
  nanosecond : Nat
  /-- Seconds since the start of 1970. -/
  timestamp : Int
deriving DecidableEq, Repr, Inhabited

def isLeap (year : Int) : Bool := year % 4 == 0 && (year % 100 != 0 || year % 400 == 0)

def monthLengths (year : Int) : List Nat :=
  [31, if isLeap year then 29 else 28, 31, 30, 31, 30, 31, 31, 30, 31, 30, 31]

/-- The number of days from the start of year 0 to the start of `year`. -/
def daysBeforeYear (year : Int) : Int :=
  365 * year + (year + 3) / 4 - (year + 99) / 100 + (year + 399) / 400

/-- The number of days from the start of year 0 to the start of 1970. -/
def epochDay : Int := daysBeforeYear 1970

/-- The year that holds a day counted from the start of year 0. -/
def yearOfDay (day : Int) : Int :=
  let guess := (400 * day) / 146097
  if day < daysBeforeYear guess then guess - 1
  else if daysBeforeYear (guess + 1) ≤ day then guess + 1
  else guess

/-- Month and day of the month from the day of the year, both days counted from zero. -/
def splitMonths : List Nat → Nat → Nat × Nat
  | [], day => (0, day)
  | length :: rest, day =>
    if day < length then (0, day)
    else
      let (month, day) := splitMonths rest (day - length)
      (month + 1, day)

def Moment.ofTimestamp (timestamp : Int) (nanosecond : Nat) : Moment :=
  let day := timestamp / 86400 + epochDay
  let second := (timestamp % 86400).toNat
  let year := yearOfDay day
  let (month, monthDay) := splitMonths (monthLengths year) (day - daysBeforeYear year).toNat
  { year
    month := month + 1
    day := monthDay + 1
    hour := second / 3600
    minute := second / 60 % 60
    second := second % 60
    nanosecond
    timestamp }

/-- The years that dates are defined for. -/
def firstYear : Int := -262143

def lastYear : Int := 262142

/-- The moment of a timestamp, if its year is in range. -/
def Moment.ofTimestamp? (timestamp : Int) : Option Moment :=
  let day := timestamp / 86400 + epochDay
  if daysBeforeYear firstYear ≤ day && day < daysBeforeYear (lastYear + 1) then
    some (.ofTimestamp timestamp 0)
  else none

namespace Moment

/-- The day of the year, counted from 1. -/
def ordinal (m : Moment) : Nat :=
  ((monthLengths m.year).take (m.month - 1)).foldl (· + ·) m.day

/-- The day of the week, Monday being 0. -/
def weekday (m : Moment) : Nat := ((m.timestamp / 86400 + 3) % 7).toNat

/-- The number of the week in its year, weeks starting `start` days after Monday. -/
def weeksFrom (m : Moment) (start : Nat) : Nat :=
  (m.ordinal + 6 - (m.weekday + 7 - start) % 7) / 7

/-- The day of the year of the Thursday in the same week, which may lie in a neighbouring year. -/
def thursday (m : Moment) : Int := (m.ordinal : Int) + 3 - m.weekday

def yearLength (year : Int) : Int := if isLeap year then 366 else 365

/-- The year that the week of the moment belongs to: the year of its Thursday. -/
def isoYear (m : Moment) : Int :=
  if m.thursday < 1 then m.year - 1
  else if yearLength m.year < m.thursday then m.year + 1
  else m.year

def isoWeek (m : Moment) : Nat :=
  let day :=
    if m.thursday < 1 then m.thursday + yearLength (m.year - 1)
    else if yearLength m.year < m.thursday then m.thursday - yearLength m.year
    else m.thursday
  ((day + 6) / 7).toNat

/-- The hour on a twelve-hour clock. -/
def hour12 (m : Moment) : Nat := if m.hour % 12 = 0 then 12 else m.hour % 12

end Moment

end TextTemplate.Time
