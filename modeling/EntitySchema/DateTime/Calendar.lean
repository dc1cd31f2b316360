/-!
The proleptic Gregorian calendar, with dates named by month and day, by the day of the year, or by
week and weekday.
-/

namespace EntitySchema

/-- The three ways to name a day. Weekdays count from Monday as 1. -/
inductive CalendarDate where
  | monthDay (year : Int) (month day : Nat)
  | ordinal (year : Int) (day : Nat)
  | week (year : Int) (week weekday : Nat)
  deriving DecidableEq, Repr

def isLeapYear (year : Int) : Bool := year % 4 == 0 && (year % 100 != 0 || year % 400 == 0)

def daysInYear (year : Int) : Nat := if isLeapYear year then 366 else 365

def daysInMonth (year : Int) (month : Nat) : Nat :=
  match month with
  | 2 => if isLeapYear year then 29 else 28
  | 4 | 6 | 9 | 11 => 30
  | _ => 31

/-- The weekday of the last day of a year, counted from Sunday as 0. -/
def lastWeekday (year : Int) : Int := (year + year / 4 - year / 100 + year / 400) % 7

/-- A year has 53 weeks if it ends on a Thursday or starts on one. -/
def weeksInYear (year : Int) : Nat :=
  if lastWeekday year = 4 ∨ lastWeekday (year - 1) = 3 then 53 else 52

example : [2015, 2020, 2021, 2024].map weeksInYear = [53, 53, 52, 52] := by decide

/-- The weekday of the fourth of January, counted from Monday as 1. That day lies in week 1. -/
def weekdayOfJanuaryFourth (year : Int) : Int := (lastWeekday (year - 1) + 3) % 7 + 1

/-- The day of the year on which a day of a week falls. It is not positive in the year before, and
exceeds the length of the year in the year after. -/
def dayOfYearOfWeek (year : Int) (week weekday : Nat) : Int :=
  7 * (week : Int) + weekday - (weekdayOfJanuaryFourth year + 3)

example : dayOfYearOfWeek 2024 1 1 = 1 ∧ dayOfYearOfWeek 2021 1 1 = 4 := by decide
example : dayOfYearOfWeek 9999 52 5 = 365 := by decide

def maxYear : Int := 9999

/-- Whether the date exists. A day of a week may fall in a neighbouring year, which then has to be
in range as well. -/
def CalendarDate.isValid : CalendarDate → Bool
  | .monthDay year month day =>
    -maxYear ≤ year && year ≤ maxYear && 1 ≤ month && month ≤ 12 && 1 ≤ day &&
      day ≤ daysInMonth year month
  | .ordinal year day =>
    -maxYear ≤ year && year ≤ maxYear && 1 ≤ day && day ≤ daysInYear year
  | .week year number weekday =>
    -maxYear ≤ year && year ≤ maxYear && 1 ≤ number && number ≤ weeksInYear year && 1 ≤ weekday &&
      weekday ≤ 7 &&
      (year < maxYear || dayOfYearOfWeek year number weekday ≤ daysInYear year) &&
      (-maxYear < year || 1 ≤ dayOfYearOfWeek year number weekday)

structure Moment where
  year : Int
  month : Nat
  day : Nat
  minuteOfDay : Int
  deriving DecidableEq, Repr

/-- Moves a minute that lies outside of its day to the day before or after. The minute is less
than a day away. -/
def Moment.normalize (moment : Moment) : Moment :=
  if moment.minuteOfDay < 0 then
    let minuteOfDay := moment.minuteOfDay + 1440
    if moment.day > 1 then { moment with day := moment.day - 1, minuteOfDay }
    else if moment.month > 1 then
      let month := moment.month - 1
      { moment with month, day := daysInMonth moment.year month, minuteOfDay }
    else { year := moment.year - 1, month := 12, day := 31, minuteOfDay }
  else if moment.minuteOfDay ≥ 1440 then
    let minuteOfDay := moment.minuteOfDay - 1440
    if moment.day < daysInMonth moment.year moment.month then
      { moment with day := moment.day + 1, minuteOfDay }
    else if moment.month < 12 then { moment with month := moment.month + 1, day := 1, minuteOfDay }
    else { year := moment.year + 1, month := 1, day := 1, minuteOfDay }
  else moment

/-- Whether the moment, which is given in UTC, lies in the last minute of a month. -/
def Moment.isLastMinuteOfMonth (moment : Moment) : Bool :=
  moment.minuteOfDay == 1439 && moment.day == daysInMonth moment.year moment.month

end EntitySchema
