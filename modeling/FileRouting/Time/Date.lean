/-!
# Calendar dates

Dates of the proleptic Gregorian calendar from 1 January of year 1 to 31 December of year 9999, and
the counts that a calendar shows beside them: the day of the year, the weekday, the week of the year
and the week of the month. A date is located by its `ordinal`, the number of days from 31 December
of year 0.
-/

namespace FileRouting.Time

/-! ## Years and months -/

/-- Every fourth year, of the century years only every fourth. -/
def isLeapYear (year : Nat) : Bool :=
  year % 4 == 0 && (year % 100 != 0 || year % 400 == 0)

def daysInMonth (year : Nat) : Nat → Nat
  | 2 => if isLeapYear year then 29 else 28
  | 4 | 6 | 9 | 11 => 30
  | _ => 31

def daysBeforeMonth (year : Nat) : Nat → Nat
  | 0 => 0
  | month + 1 => if month = 0 then 0 else daysBeforeMonth year month + daysInMonth year month

/-- The days from year 1 to the end of the year before. -/
def daysBeforeYear (year : Nat) : Nat :=
  let passed := year - 1
  passed * 365 + passed / 4 - passed / 100 + passed / 400

def minYear : Nat := 1

def maxYear : Nat := 9999

/-! ## Dates -/

/-- A day of the calendar. -/
structure Date where
  year : Nat
  month : Nat
  day : Nat
  year_ge : minYear ≤ year
  year_le : year ≤ maxYear
  month_ge : 1 ≤ month
  month_le : month ≤ 12
  day_ge : 1 ≤ day
  day_le : day ≤ daysInMonth year month
deriving DecidableEq

namespace Date

/-- What keeps three numbers from being a date; the year is looked at first and the day last. -/
inductive Fault
  | year (found : Int)
  | month
  | day
deriving DecidableEq, Repr

def Fault.message : Fault → String
  | year found => "year " ++ toString found ++ " is out of range"
  | month => "month must be in 1..12"
  | day => "day is out of range for month"

def ofNumbers (year month day : Nat) : Except Fault Date :=
  if hy : minYear ≤ year ∧ year ≤ maxYear then
    if hm : 1 ≤ month ∧ month ≤ 12 then
      if hd : 1 ≤ day ∧ day ≤ daysInMonth year month then
        .ok ⟨year, month, day, hy.1, hy.2, hm.1, hm.2, hd.1, hd.2⟩
      else .error .day
    else .error .month
  else .error (.year year)

/-- The first day of the calendar. -/
def first : Date :=
  ⟨1, 1, 1, by decide, by decide, by decide, by decide, by decide, by decide⟩

/-! ## Counting days -/

/-- One plus the days since 1 January of the same year. -/
def dayOfYear (d : Date) : Nat :=
  daysBeforeMonth d.year d.month + d.day

/-- The number of the day, where 1 January of year 1 has number 1. -/
def ordinal (d : Date) : Nat :=
  daysBeforeYear d.year + d.dayOfYear

/-- The month and day that hold a day of the year, searched from month `month` on. -/
def monthAndDay (year : Nat) : (months month dayOfYear : Nat) → Nat × Nat
  | 0, month, day => (month, day)
  | months + 1, month, day =>
    if day ≤ daysInMonth year month then (month, day)
    else monthAndDay year months (month + 1) (day - daysInMonth year month)

/-- The year that holds the day with a number: the quotient by the mean length of a year is at most
one off. -/
def yearOfOrdinal (number : Nat) : Nat :=
  let near := number * 400 / 146097 + 1
  if number ≤ daysBeforeYear near then near - 1
  else if daysBeforeYear (near + 1) < number then near + 1
  else near

/-- The date with a number. A number before the calendar is moved up by whole cycles of 400 years
to find the year it would be in. -/
def ofOrdinal (number : Int) : Except Fault Date :=
  match number with
  | .negSucc n =>
    let cycles := n / 146097 + 1
    .error (.year (yearOfOrdinal (146097 * cycles - (n + 1)) - 400 * cycles))
  | .ofNat number =>
    let year := yearOfOrdinal number
    let (month, day) := monthAndDay year 11 1 (number - daysBeforeYear year)
    ofNumbers year month day

/-! ## Weeks -/

/-- The weekday of the day with a number, 0 on Monday. -/
def weekdayOf (number : Nat) : Nat :=
  (number + 6) % 7

/-- The weekday, 0 on Monday to 6 on Sunday. -/
def weekday (d : Date) : Nat :=
  weekdayOf d.ordinal

/-- How many days of the month, up to and with this one, have the same weekday. -/
def weekdayInMonth (d : Date) : Nat :=
  (d.day - 1) / 7 + 1

/-- The week of the month, where weeks start on Monday and the first of the month is in week 1. -/
def weekOfMonth (d : Date) : Nat :=
  let firstWeekday := weekdayOf (daysBeforeYear d.year + daysBeforeMonth d.year d.month + 1)
  (d.day - 1 + firstWeekday) / 7 + 1

/-- The number of the Monday that starts week 1 of a year: the week that holds the year's first
Thursday. -/
def firstWeek (year : Nat) : Int :=
  let newYear := daysBeforeYear year + 1
  let weekday := weekdayOf newYear
  let monday : Int := newYear - weekday
  if weekday > 3 then monday + 7 else monday

/-- The week of the year: weeks start on Monday, and a week belongs to the year of its Thursday. -/
def weekOfYear (d : Date) : Nat :=
  let number : Int := d.ordinal
  let start :=
    if number < firstWeek d.year then firstWeek (d.year - 1)
    else if firstWeek (d.year + 1) ≤ number then firstWeek (d.year + 1)
    else firstWeek d.year
  ((number - start) / 7 + 1).toNat

end Date

end FileRouting.Time
