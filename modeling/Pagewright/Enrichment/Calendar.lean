/-!
# Pagewright.Enrichment.Calendar

Dates of the Gregorian calendar from year 1 to year 9999, given by month and day or by week and day of
the week.
-/

namespace Pagewright

/-- A date. -/
structure Date where
  year : Nat
  month : Nat
  day : Nat
  deriving DecidableEq, Inhabited

namespace Date

/-- Whether a year has 366 days. -/
def isLeap (year : Nat) : Bool := year % 4 == 0 && (year % 100 != 0 || year % 400 == 0)

/-- The numbers of days of the months of a year. -/
def monthLengths (year : Nat) : List Nat :=
  [31, if isLeap year then 29 else 28, 31, 30, 31, 30, 31, 31, 30, 31, 30, 31]

/-- The date of a year, a month and a day, if there is one. -/
def ofMonth? (year month day : Nat) : Option Date :=
  if 1 ≤ year ∧ year ≤ 9999 ∧ 1 ≤ month ∧ 1 ≤ day ∧
      day ≤ (monthLengths year).getD (month - 1) 0 then
    some ⟨year, month, day⟩
  else none

/-- The number of days from the beginning of year 1 to the beginning of a later year. -/
def daysBefore (year : Nat) : Nat :=
  let n := year - 1
  n * 365 + n / 4 - n / 100 + n / 400

/-- The day of the week on which a year begins, from 0 for Monday. -/
def firstWeekday (year : Nat) : Nat := daysBefore year % 7

/-- Whether a year has 53 weeks. -/
def isLongYear (year : Nat) : Bool :=
  firstWeekday year == 3 || (firstWeekday year == 2 && isLeap year)

/-- The date of a day of a year, counted from 0, through the months that are left. -/
def ofDayOfYear (year : Nat) : (month : Nat) → (day : Nat) → (lengths : List Nat) → Option Date
  | _, _, [] => none
  | month, day, n :: rest =>
    if day < n then ofMonth? year month (day + 1) else ofDayOfYear year (month + 1) (day - n) rest

/-- The date of a number of days after the beginning of year 1, near a year. -/
def ofDays? (year : Nat) (days : Nat) : Option Date :=
  let year :=
    if days < daysBefore year then year - 1
    else if daysBefore (year + 1) ≤ days then year + 1
    else year
  ofDayOfYear year 1 (days - daysBefore year) (monthLengths year)

/-- The date of a year, a week and a day of the week.  The first week of a year is the one with its
first Thursday. -/
def ofWeek? (year week weekday : Nat) : Option Date :=
  if year = 0 ∨ week = 0 ∨ 53 < week ∨ (week = 53 ∧ !isLongYear year) ∨ weekday = 0 ∨ 7 < weekday then
    none
  else
    let first := firstWeekday year
    let monday := if 3 < first then daysBefore year + 7 - first else daysBefore year - first
    ofDays? year (monday + (week - 1) * 7 + (weekday - 1))

/-- The short names of the months. -/
def monthNames : List String :=
  ["Jan", "Feb", "Mar", "Apr", "May", "Jun", "Jul", "Aug", "Sep", "Oct", "Nov", "Dec"]

/-- A date as readers see it: month, day and year. -/
def text (d : Date) : String :=
  monthNames.getD (d.month - 1) "" ++ " " ++ toString d.day ++ ", " ++ toString d.year

end Date

end Pagewright
