/-!
# The calendar

Days of the proleptic Gregorian calendar from the year zero on, counted from the first of
January 1970.
-/

namespace ChatRouting

/-- A day by year, month and day of the month. -/
structure Date where
  (year month day : Nat)
  deriving DecidableEq, Repr

namespace Date

/-- Every fourth year is a leap year, but of the full centuries only every fourth. -/
def isLeap (year : Nat) : Bool :=
  year % 4 == 0 && (year % 100 != 0 || year % 400 == 0)

/-- The number of days in a month. -/
def monthLength (year month : Nat) : Nat :=
  if month = 2 then if isLeap year then 29 else 28
  else if month = 4 ∨ month = 6 ∨ month = 9 ∨ month = 11 then 30
  else 31

/-- The date is in the calendar. -/
def isValid (d : Date) : Bool :=
  decide (1 ≤ d.month ∧ d.month ≤ 12 ∧ 1 ≤ d.day ∧ d.day ≤ monthLength d.year d.month)

/-- The number of days in the years before a year, from the year zero on. -/
def daysBeforeYear (year : Nat) : Nat :=
  365 * year + (year + 3) / 4 - (year + 99) / 100 + (year + 399) / 400

/-- The number of days in the first `n` months of a year. -/
def daysInMonths (year : Nat) : Nat → Nat
  | 0 => 0
  | n + 1 => daysInMonths year n + monthLength year (n + 1)

/-- The number of days from the first of January 1970 to the date. -/
def epochDays (d : Date) : Int :=
  (daysBeforeYear d.year + daysInMonths d.year (d.month - 1) + (d.day - 1) : Nat)
    - (daysBeforeYear 1970 : Nat)

end Date

end ChatRouting
