import BarRules.Text.Decimal

/-
  Points in time as dates and times of day.

  Key definitions include:
    * `BarRules.Calendar.Date`
    * `BarRules.Calendar.Date.ofDays`
    * `BarRules.Calendar.stamp`

  Time is counted in seconds from the start of 1970 in UTC, and
  dates are those of the Gregorian calendar, carried on before
  its introduction.  A year counts from March here, so that the
  leap day is its last day.
-/

------------------------------------------------------------
-- Dates
------------------------------------------------------------

namespace BarRules

namespace Calendar

/- A date of the Gregorian calendar. -/
structure Date where
  year : Int
  month : Nat
  day : Nat
  deriving DecidableEq

/- The days from March 1 of year 0 to the start of 1970. -/
def epoch : Int := 719468

/- The days of 400 years, after which the calendar repeats. -/
def cycle : Int := 146097

namespace Date

/-
  The year of a cycle, counted from March, in which the day of
  the cycle lies.  Every fourth year is longer, but not every
  hundredth, except the last one of the cycle.
-/
def yearOfCycle (day : Nat) : Nat :=
  (day - day / 1460 + day / 36524 - day / 146096) / 365

/- The first day of a year of a cycle. -/
def startOfYear (year : Nat) : Nat :=
  365 * year + year / 4 - year / 100

/- The date of a day, counted from the start of 1970. -/
def ofDays (days : Int) : Date :=
  let shifted := days + epoch
  let dayOfCycle := (shifted % cycle).toNat
  let yearOfCycle := yearOfCycle dayOfCycle
  let dayOfYear := dayOfCycle - startOfYear yearOfCycle
  let monthFromMarch := (5 * dayOfYear + 2) / 153
  let month :=
    if monthFromMarch < 10 then
      monthFromMarch + 3
    else
      monthFromMarch - 9
  let year := 400 * (shifted / cycle) + yearOfCycle
  { year := if month ≤ 2 then year + 1 else year
    month := month
    day := dayOfYear - (153 * monthFromMarch + 2) / 5 + 1 }

/- A year of at least four digits, signed outside 0 to 9999. -/
def yearText (year : Int) : String :=
  let digits := Text.Decimal.padded 4 year.natAbs
  if year < 0 then
    "-" ++ digits
  else if year ≤ 9999 then
    digits
  else
    "+" ++ digits

/- A date as year, month and day. -/
def text (date : Date) : String :=
  yearText date.year ++ "-" ++
    Text.Decimal.padded 2 date.month ++ "-" ++
    Text.Decimal.padded 2 date.day

end Date

end Calendar

end BarRules

------------------------------------------------------------
-- Times
------------------------------------------------------------

namespace BarRules

namespace Calendar

/- A second of a day as hours, minutes and seconds. -/
def timeText (second : Nat) : String :=
  Text.Decimal.padded 2 (second / 3600) ++ ":" ++
    Text.Decimal.padded 2 (second / 60 % 60) ++ ":" ++
    Text.Decimal.padded 2 (second % 60)

/- A time in seconds since 1970 as date and time of day. -/
def stamp (seconds : Int) : String :=
  (Date.ofDays (seconds / 86400)).text ++ " " ++
    timeText (seconds % 86400).toNat ++ " UTC"

end Calendar

end BarRules
