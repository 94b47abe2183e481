/-
This file holds date layouts. A layout is a pattern of literal text and of parts that start with a
percent sign.
-/

import Forms.Text.Blank

namespace Forms.Calendar

/-- The numbers that a layout can ask for. -/
inductive Quantity where
  | year
  | century
  | yearOfCentury
  | weekYear
  | yearOfWeekCentury
  | quarter
  | month
  | day
  | sundayWeek
  | mondayWeek
  | isoWeek
  | daysSinceSunday
  | weekdayFromMonday
  | ordinal
  | hour
  | hourOfHalf
  | minute
  | second
  | nanosecond
  | timestamp
deriving DecidableEq, Repr

/-- One part of a layout. -/
inductive Item where
  | literal (text : List Char)
  | space
  | number (quantity : Quantity)
  /-- A month by its name. The long name counts where it is allowed. -/
  | monthName (long : Bool)
  | weekdayName (long : Bool)
  | halfOfDay
  /-- A fraction of a second with a point before it. It may have to have an exact number of digits. -/
  | pointFraction (digits : Option Nat)
  /-- A fraction of a second with a fixed number of digits. -/
  | fixedFraction (digits : Nat)
  | zoneName
  /-- The distance from universal time. It may be the letter Z and may lack its minutes. -/
  | offset (permissive : Bool)
  /-- A date, a time and an offset in the usual form of the internet. -/
  | timestampText
  /-- A part that no text fits. -/
  | faulty
deriving DecidableEq, Repr

namespace Layout

def numbers (separator : Char) (quantities : List Quantity) : List Item :=
  (quantities.map Item.number).intersperse (.literal [separator])

def clock : List Item := numbers ':' [.hour, .minute, .second]

/-- The parts that a letter after a percent sign stands for. -/
def ofLetter? (letter : Char) : Option (List Item) :=
  match letter with
  | 'A' => some [.weekdayName true]
  | 'B' => some [.monthName true]
  | 'C' => some [.number .century]
  | 'D' | 'x' => some (numbers '/' [.month, .day, .yearOfCentury])
  | 'F' => some (numbers '-' [.year, .month, .day])
  | 'G' => some [.number .weekYear]
  | 'H' | 'k' => some [.number .hour]
  | 'I' | 'l' => some [.number .hourOfHalf]
  | 'M' => some [.number .minute]
  | 'P' | 'p' => some [.halfOfDay]
  | 'R' => some (numbers ':' [.hour, .minute])
  | 'S' => some [.number .second]
  | 'T' | 'X' => some clock
  | 'U' => some [.number .sundayWeek]
  | 'V' => some [.number .isoWeek]
  | 'W' => some [.number .mondayWeek]
  | 'Y' => some [.number .year]
  | 'Z' => some [.zoneName]
  | 'a' => some [.weekdayName false]
  | 'b' | 'h' => some [.monthName false]
  | 'c' => some ([.weekdayName false, .space, .monthName false, .space, .number .day, .space] ++
      clock ++ [.space, .number .year])
  | 'd' | 'e' => some [.number .day]
  | 'f' => some [.number .nanosecond]
  | 'g' => some [.number .yearOfWeekCentury]
  | 'j' => some [.number .ordinal]
  | 'm' => some [.number .month]
  | 'n' | 't' => some [.space]
  | 'q' => some [.number .quarter]
  | 'r' => some (numbers ':' [.hourOfHalf, .minute, .second] ++ [.space, .halfOfDay])
  | 's' => some [.number .timestamp]
  | 'u' => some [.number .weekdayFromMonday]
  | 'v' => some [.number .day, .literal ['-'], .monthName false, .literal ['-'], .number .year]
  | 'w' => some [.number .daysSinceSunday]
  | 'y' => some [.number .yearOfCentury]
  | 'z' => some [.offset false]
  | '+' => some [.timestampText]
  | '%' => some [.literal ['%']]
  | _ => none

/-- The parts after a percent sign, and the text that follows them. -/
def readSpecifier (text : List Char) : List Item × List Char :=
  match text with
  | [] => ([.faulty], [])
  | ':' :: ':' :: ':' :: 'z' :: rest => ([.offset false], rest)
  | ':' :: ':' :: 'z' :: rest => ([.offset false], rest)
  | ':' :: 'z' :: rest => ([.offset false], rest)
  | '.' :: 'f' :: rest => ([.pointFraction none], rest)
  | '.' :: '3' :: 'f' :: rest => ([.pointFraction (some 3)], rest)
  | '.' :: '6' :: 'f' :: rest => ([.pointFraction (some 6)], rest)
  | '.' :: '9' :: 'f' :: rest => ([.pointFraction (some 9)], rest)
  | '3' :: 'f' :: rest => ([.fixedFraction 3], rest)
  | '6' :: 'f' :: rest => ([.fixedFraction 6], rest)
  | '9' :: 'f' :: rest => ([.fixedFraction 9], rest)
  | letter :: rest => ((ofLetter? letter).getD [.faulty], rest)

/-- A mark for padding may stand before a specifier of a single number. -/
def readPadded (text : List Char) : List Item × List Char :=
  match readSpecifier text with
  | ([.number quantity], rest) => ([.number quantity], rest)
  | (_, rest) => ([.faulty], rest)

/-- The specifier after a percent sign with its modifier. -/
def readModified (text : List Char) : List Item × List Char :=
  match text with
  | '#' :: 'z' :: rest => ([.offset true], rest)
  | '-' :: rest | '0' :: rest | '_' :: rest => readPadded rest
  | text => readSpecifier text

theorem readSpecifier_shorter (text : List Char) :
    (readSpecifier text).2.length ≤ text.length := by
  unfold readSpecifier
  split <;> simp <;> omega

theorem readPadded_shorter (text : List Char) : (readPadded text).2.length ≤ text.length := by
  have shorter := readSpecifier_shorter text
  unfold readPadded
  split
  · next equation => rw [equation] at shorter; exact shorter
  · next equation => rw [equation] at shorter; exact shorter

theorem readModified_shorter (text : List Char) : (readModified text).2.length ≤ text.length := by
  unfold readModified
  split
  · simp; omega
  · next rest => exact Nat.le_succ_of_le (readPadded_shorter rest)
  · next rest => exact Nat.le_succ_of_le (readPadded_shorter rest)
  · next rest => exact Nat.le_succ_of_le (readPadded_shorter rest)
  · exact readSpecifier_shorter text

def isLiteralChar (character : Char) : Bool := character ≠ '%' && !Text.isBlankChar character

/-- The parts of a layout in their order. -/
def items (text : List Char) : List Item :=
  match text with
  | [] => []
  | '%' :: rest => (readModified rest).1 ++ items (readModified rest).2
  | first :: rest =>
      if Text.isBlankChar first then .space :: items (rest.dropWhile Text.isBlankChar)
      else .literal (first :: rest.takeWhile isLiteralChar) :: items (rest.dropWhile isLiteralChar)
termination_by text.length
decreasing_by
  · exact Nat.lt_succ_of_le (readModified_shorter rest)
  · exact Nat.lt_succ_of_le (List.dropWhile_suffix Text.isBlankChar (l := rest)).length_le
  · exact Nat.lt_succ_of_le (List.dropWhile_suffix isLiteralChar (l := rest)).length_le

/-- The letters that show a person what a specifier asks for. -/
def shownLetter? (letter : Char) : Option String :=
  match letter with
  | 'Y' => some "YYYY"
  | 'y' => some "YY"
  | 'm' => some "MM"
  | 'd' | 'e' => some "DD"
  | 'b' | 'h' => some "MMM"
  | 'B' => some "MMMM"
  | 'j' => some "DDD"
  | 'F' => some "YYYY-MM-DD"
  | '%' => some "%"
  | _ => none

/-- This function shows a layout to a person. Specifiers without a common name stay as they are. -/
def shown : List Char → List Char
  | [] => []
  | '%' :: letter :: rest =>
      (match shownLetter? letter with
        | some letters => letters.toList
        | none => ['%', letter]) ++ shown rest
  | first :: rest => first :: shown rest

def describe (layout : String) : String := String.ofList (shown layout.toList)

example : describe "%d/%m/%Y" = "DD/MM/YYYY" := by decide +kernel
example : describe "%d %b %q%" = "DD MMM %q%" := by decide +kernel

end Layout

end Forms.Calendar
