/-
This file holds what a text says about a date. The pieces of a text may tell one thing twice, and they
may tell more than a date needs, but they have to agree.
-/

import Forms.Calendar.Date

namespace Forms.Calendar

/-- The things that a piece of a text can tell. -/
inductive Aspect where
  | year
  | century
  | yearOfCentury
  | weekYear
  | yearOfWeekCentury
  | quarter
  | month
  | day
  | sundayWeek
  | mondayWeek
  | isoWeek
  | weekday
  | ordinal
  | half
  | hourOfHalf
  | minute
  | second
  | nanosecond
  | timestamp
  | offset
deriving DecidableEq, Repr

/-- The value of every aspect that has been told. -/
structure Clues where
  told : List (Aspect × Int) := []
deriving Repr

namespace Clues

def get? (clues : Clues) (aspect : Aspect) : Option Int :=
  (clues.told.find? fun pair => pair.1 == aspect).map Prod.snd

/-- A value that contradicts an earlier one has no place. -/
def note (clues : Clues) (aspect : Aspect) (value : Int) : Option Clues :=
  match clues.get? aspect with
  | none => some ⟨(aspect, value) :: clues.told⟩
  | some earlier => if earlier = value then some clues else none

def noteAll (clues : Clues) : List (Aspect × Int) → Option Clues
  | [] => some clues
  | (aspect, value) :: rest => (clues.note aspect value).bind (·.noteAll rest)

/-- A value that was not told agrees with everything. -/
def agrees (clues : Clues) (aspect : Aspect) (value : Int) : Bool :=
  match clues.get? aspect with
  | none => true
  | some told => told == value

/-- A year agrees with the century and with the year of the century that were told. Years before
zero have neither. -/
def partsAgree (century rest : Option Int) (year : Int) : Bool :=
  if year < 0 then century.isNone && rest.isNone
  else century.all (· == year / 100) && rest.all (· == year % 100)

/-- The year that the parts of a year tell, or no year if nothing is told. Two digits alone stand for
a year from 1970 to 2069. Contradictions tell no year at all. -/
def resolveYear : (year century rest : Option Int) → Option (Option Int)
  | none, none, none => some none
  | some year, century, rest => if partsAgree century rest year then some (some year) else none
  | none, some century, some rest => some (some (100 * century + rest))
  | none, some _, none => none
  | none, none, some rest => some (some (if rest < 70 then 2000 + rest else 1900 + rest))

def year? (clues : Clues) : Option (Option Int) :=
  resolveYear (clues.get? .year) (clues.get? .century) (clues.get? .yearOfCentury)

/-- The year that a numbered week belongs to. -/
def weekYear? (clues : Clues) : Option (Option Int) :=
  resolveYear (clues.get? .weekYear) none (clues.get? .yearOfWeekCentury)

def agreesWithMonthDay (clues : Clues) (date : Date) : Bool :=
  clues.agrees .year date.year &&
    partsAgree (clues.get? .century) (clues.get? .yearOfCentury) date.year &&
    clues.agrees .month date.month && clues.agrees .day date.day

def agreesWithIsoWeek (clues : Clues) (date : Date) : Bool :=
  clues.agrees .weekYear date.isoWeek.1 &&
    partsAgree none (clues.get? .yearOfWeekCentury) date.isoWeek.1 &&
    clues.agrees .isoWeek date.isoWeek.2 && clues.agrees .weekday date.weekday.number

def agreesWithOrdinal (clues : Clues) (date : Date) : Bool :=
  clues.agrees .ordinal date.ordinal && clues.agrees .sundayWeek (date.weeksFrom .sunday) &&
    clues.agrees .mondayWeek (date.weeksFrom .monday)

/-- Every clue about the day agrees with a date. -/
def agreesWith (clues : Clues) (date : Date) : Bool :=
  clues.agreesWithMonthDay date && clues.agreesWithIsoWeek date &&
    clues.agreesWithOrdinal date && clues.agrees .quarter date.quarter

def weekday? (clues : Clues) : Option Weekday :=
  (clues.get? .weekday).map fun number => .ofNumber number.toNat

/-- The first of the usual ways to name a day whose clues have all been told. -/
def candidate? (clues : Clues) (year weekYear : Option Int) : Option Date :=
  let given (aspect : Aspect) : Option Nat := (clues.get? aspect).map Int.toNat
  match year, given .month, given .day with
  | some year, some month, some day => Date.ofMonthDay? year month day
  | _, _, _ =>
    match year, given .ordinal with
    | some year, some ordinal => Date.ofOrdinal? year ordinal
    | _, _ =>
      match year, given .sundayWeek, clues.weekday? with
      | some year, some week, some weekday => Date.ofWeek? year week weekday .sunday
      | _, _, _ =>
        match year, given .mondayWeek, clues.weekday? with
        | some year, some week, some weekday => Date.ofWeek? year week weekday .monday
        | _, _, _ =>
          match weekYear, given .isoWeek, clues.weekday? with
          | some year, some week, some weekday => Date.ofIsoWeek? year week weekday
          | _, _, _ => none

/-- The date that a text names. Contradictions and gaps name none. -/
def date? (clues : Clues) : Option Date := do
  let year ← clues.year?
  let weekYear ← clues.weekYear?
  let date ← clues.candidate? year weekYear
  if clues.agreesWith date then some date else none

end Clues

end Forms.Calendar
