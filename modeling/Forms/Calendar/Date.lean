/-
This file holds the days of the calendar. The calendar has the leap years of the present rule in all
years, also in the years before the rule was made.
-/

namespace Forms.Calendar

/-- The days of a week, from Monday. -/
inductive Weekday where
  | monday
  | tuesday
  | wednesday
  | thursday
  | friday
  | saturday
  | sunday
deriving DecidableEq, Repr

namespace Weekday

/-- The number of days since the last Monday. -/
def number : Weekday → Nat
  | .monday => 0
  | .tuesday => 1
  | .wednesday => 2
  | .thursday => 3
  | .friday => 4
  | .saturday => 5
  | .sunday => 6

def all : List Weekday := [.monday, .tuesday, .wednesday, .thursday, .friday, .saturday, .sunday]

/-- The weekday some days after a Monday. -/
def ofNumber (number : Nat) : Weekday := all.getD (number % 7) .monday

/-- The number of days since the last day with the other weekday. -/
def daysSince (day other : Weekday) : Nat := (day.number + 7 - other.number) % 7

end Weekday

/-- Every fourth year is a leap year. Of the years divisible by 100 only every fourth is. -/
def isLeap (year : Int) : Bool := year % 4 = 0 && (year % 100 ≠ 0 || year % 400 = 0)

def daysInYear (year : Int) : Nat := if isLeap year then 366 else 365

/-- The lengths of the months of a year. -/
def monthLengths (year : Int) : List Nat :=
  [31, if isLeap year then 29 else 28, 31, 30, 31, 30, 31, 31, 30, 31, 30, 31]

/-- The number of days of a year before a month. Months count from one. -/
def daysBefore (year : Int) (month : Nat) : Nat :=
  ((monthLengths year).take (month - 1)).foldl (· + ·) 0

def daysInMonth (year : Int) (month : Nat) : Nat := (monthLengths year).getD (month - 1) 0

/-- The first and the last year of the calendar. -/
def leastYear : Int := -262143

def greatestYear : Int := 262142

/-- A date is a day of a year. The days of a year count from one. -/
structure Date where
  year : Int
  ordinal : Nat
  yearInRange : leastYear ≤ year ∧ year ≤ greatestYear
  ordinalInYear : 1 ≤ ordinal ∧ ordinal ≤ daysInYear year
deriving DecidableEq

namespace Date

def ofOrdinal? (year : Int) (ordinal : Nat) : Option Date :=
  if valid : (leastYear ≤ year ∧ year ≤ greatestYear) ∧
      (1 ≤ ordinal ∧ ordinal ≤ daysInYear year) then
    some ⟨year, ordinal, valid.1, valid.2⟩
  else none

def ofMonthDay? (year : Int) (month day : Nat) : Option Date :=
  if 1 ≤ month ∧ month ≤ 12 ∧ 1 ≤ day ∧ day ≤ daysInMonth year month then
    ofOrdinal? year (daysBefore year month + day)
  else none

/-- The number of the last month that starts before a day of the year. -/
def month (date : Date) : Nat :=
  ((List.range 12).filter fun before => daysBefore date.year (before + 1) < date.ordinal).length

def day (date : Date) : Nat := date.ordinal - daysBefore date.year date.month

def quarter (date : Date) : Nat := (date.month + 2) / 3

/-- The number of days since the last day of the year zero. -/
def dayNumber (date : Date) : Int :=
  let before := date.year - 1
  365 * before + before / 4 - before / 100 + before / 400 + date.ordinal

/-- The first day of the year one is a Monday. -/
def weekday (date : Date) : Weekday := .ofNumber ((date.dayNumber - 1) % 7).toNat

/-- The number of weeks of the year that have begun, when weeks begin at a given weekday. -/
def weeksFrom (date : Date) (start : Weekday) : Nat :=
  (date.ordinal + 6 - date.weekday.daysSince start) / 7

/-- The weekday of the first day of a year. -/
def firstWeekday (year : Int) : Weekday :=
  let before := year - 1
  .ofNumber ((365 * before + before / 4 - before / 100 + before / 400) % 7).toNat

/-- A year has 53 weeks if it begins with a Thursday, or with a Wednesday and is a leap year. -/
def weeksInYear (year : Int) : Nat :=
  if firstWeekday year = .thursday ∨ (firstWeekday year = .wednesday ∧ isLeap year) then 53 else 52

/-- The year and the number of the week of a date. A week belongs to the year of its Thursday. -/
def isoWeek (date : Date) : Int × Nat :=
  let week := (date.ordinal + 9 - date.weekday.number) / 7
  if week = 0 then (date.year - 1, weeksInYear (date.year - 1))
  else if weeksInYear date.year < week then (date.year + 1, 1)
  else (date.year, week)

/-- The day of a year with a number of days relative to its first day. It may lie in the year before
or after. -/
def ofOffset? (year : Int) (offset : Int) : Option Date :=
  if offset < 0 then ofOrdinal? (year - 1) (offset + daysInYear (year - 1) + 1).toNat
  else if (daysInYear year : Int) ≤ offset then
    ofOrdinal? (year + 1) (offset - daysInYear year + 1).toNat
  else ofOrdinal? year (offset + 1).toNat

/-- The day with a weekday in a numbered week. The first week has the first Thursday of the year. -/
def ofIsoWeek? (year : Int) (week : Nat) (weekday : Weekday) : Option Date :=
  if 1 ≤ week ∧ week ≤ weeksInYear year then
    let first := firstWeekday year
    let start : Int := if first.number ≤ 3 then -(first.number : Int) else 7 - (first.number : Int)
    ofOffset? year (start + 7 * (week - 1) + weekday.number)
  else none

/-- The day with a weekday in a numbered week of a year, when weeks begin at a given weekday. The
days before the first such weekday are in week zero. -/
def ofWeek? (year : Int) (week : Nat) (weekday start : Weekday) : Option Date :=
  let first : Int := start.daysSince (firstWeekday year)
  let offset : Int := first + 7 * ((week : Int) - 1) + weekday.daysSince start
  if offset < 0 then none else ofOrdinal? year (offset + 1).toNat

example : (ofMonthDay? 2024 1 1).map weekday = some .monday := by decide +kernel
example : (ofMonthDay? 2021 1 3).map isoWeek = some (2020, 53) := by decide +kernel
example : (ofMonthDay? 2024 12 30).map isoWeek = some (2025, 1) := by decide +kernel
example : (ofIsoWeek? 2020 53 .sunday).map (fun date => (date.year, date.month, date.day)) =
    some (2021, 1, 3) := by decide +kernel
example : (ofMonthDay? 2023 2 29).isNone = true := by decide +kernel

end Date

end Forms.Calendar
