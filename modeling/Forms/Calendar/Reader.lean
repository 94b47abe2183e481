/-
This file reads dates that are written in a layout. The whole text has to be used up, and what its
pieces tell has to name one day.
-/

import Forms.Calendar.Clues
import Forms.Calendar.Layout

namespace Forms.Calendar

/-- A scanner gives what the start of a text tells, and the rest of the text. -/
abbrev Scan (α : Type) := List Char → Option (α × List Char)

namespace Scan

/-- The greatest number that a piece of a text can have. -/
def greatestNumber : Nat := Nat.pow 2 63 - 1

/-- A number is read as long as digits come and the width allows them. -/
def number (least : Nat) (width : Option Nat) : Scan Int := fun text =>
  let digits := ((width.elim text text.take).takeWhile Char.isDigit)
  let value := digits.foldl (fun total digit => total * 10 + (digit.toNat - '0'.toNat)) 0
  if digits.length < least || greatestNumber < value then none
  else some (value, text.drop digits.length)

/-- A number with a sign may have any number of digits. -/
def signedNumber (width : Nat) : Scan Int
  | '-' :: rest => (number 1 none rest).map fun (value, rest) => (-value, rest)
  | '+' :: rest => number 1 none rest
  | text => number 1 (some width) text

/-- Letters of the alphabet match whatever their case. -/
def dropWord? (word : List Char) (text : List Char) : Option (List Char) :=
  if (text.take word.length).map Char.toLower = word then some (text.drop word.length) else none

/-- One of several names, by its position. The end of a name may be left out where the long name
is allowed, and it is not read elsewhere. -/
def name (long : Bool) (names : List (List Char × List Char)) : Scan Int := fun text =>
  names.zipIdx.findSome? fun ((short, ending), position) =>
    (dropWord? short text).map fun rest =>
      ((position : Int), if long then (dropWord? ending rest).getD rest else rest)

def monthNames : List (List Char × List Char) :=
  [("jan", "uary"), ("feb", "ruary"), ("mar", "ch"), ("apr", "il"), ("may", ""), ("jun", "e"),
    ("jul", "y"), ("aug", "ust"), ("sep", "tember"), ("oct", "ober"), ("nov", "ember"),
    ("dec", "ember")].map fun (short, ending) => (short.toList, ending.toList)

def weekdayNames : List (List Char × List Char) :=
  [("mon", "day"), ("tue", "sday"), ("wed", "nesday"), ("thu", "rsday"), ("fri", "day"),
    ("sat", "urday"), ("sun", "day")].map fun (short, ending) => (short.toList, ending.toList)

def halves : List (List Char × List Char) := [(['a', 'm'], []), (['p', 'm'], [])]

/-- Digits after a point are billionths of a second. Digits beyond the ninth are skipped. -/
def fraction : Scan Int := fun text =>
  (number 1 (some 9) text).map fun (value, rest) =>
    (value * Nat.pow 10 (9 - (text.length - rest.length)), rest.dropWhile Char.isDigit)

/-- Exactly this many digits, which count from the tenths of a second on. -/
def exactFraction (digits : Nat) : Scan Int := fun text =>
  (number digits (some digits) text).map fun (value, rest) =>
    (value * Nat.pow 10 (9 - digits), rest)

/-- The hours, or the minutes, of an offset. -/
def twoDigits : Scan Int := number 2 (some 2)

def isSeparator (character : Char) : Bool := character = ':' || Text.isBlankChar character

/-- The minutes of an offset may be missing only at the end of the text. -/
def offsetMinutes (optional : Bool) : Scan Int
  | [] => if optional then some (0, []) else none
  | text => (twoDigits text).filter fun (minutes, _) => minutes < 60

def isMinus (character : Char) : Bool := character = '-' || character = '−'

/-- An offset is a sign with hours and minutes. It counts seconds. -/
def offset (zulu optional : Bool) : Scan Int
  | [] => none
  | first :: rest =>
      if zulu && first.toLower = 'z' then some (0, rest)
      else if first ≠ '+' && !isMinus first then none
      else do
        let (hours, rest) ← twoDigits rest
        let (minutes, rest) ← offsetMinutes optional (rest.dropWhile isSeparator)
        let seconds := 3600 * hours + 60 * minutes
        some (if isMinus first then -seconds else seconds, rest)

end Scan

namespace Quantity

/-- How a quantity is read, and the value that it may have. -/
structure Rule where
  width : Option Nat
  least : Int
  greatest : Int

def rule : Quantity → Rule
  | .year | .weekYear => ⟨some 4, -2147483648, 2147483647⟩
  | .century | .yearOfCentury | .yearOfWeekCentury => ⟨some 2, 0, 99⟩
  | .quarter => ⟨some 1, 1, 4⟩
  | .month | .hourOfHalf => ⟨some 2, 1, 12⟩
  | .day => ⟨some 2, 1, 31⟩
  | .sundayWeek | .mondayWeek => ⟨some 2, 0, 53⟩
  | .isoWeek => ⟨some 2, 1, 53⟩
  | .daysSinceSunday => ⟨some 1, 0, 6⟩
  | .weekdayFromMonday => ⟨some 1, 1, 7⟩
  | .ordinal => ⟨some 3, 1, 366⟩
  | .hour => ⟨some 2, 0, 23⟩
  | .minute => ⟨some 2, 0, 59⟩
  | .second => ⟨some 2, 0, 60⟩
  | .nanosecond => ⟨some 9, 0, 999999999⟩
  | .timestamp => ⟨none, 0, Scan.greatestNumber⟩

/-- Only years have a sign. -/
def scan (quantity : Quantity) : Scan Int :=
  match quantity with
  | .year | .weekYear => Scan.signedNumber 4
  | other => Scan.number 1 other.rule.width

/-- What a value tells. -/
def clues (quantity : Quantity) (value : Int) : List (Aspect × Int) :=
  match quantity with
  | .year => [(.year, value)]
  | .century => [(.century, value)]
  | .yearOfCentury => [(.yearOfCentury, value)]
  | .weekYear => [(.weekYear, value)]
  | .yearOfWeekCentury => [(.yearOfWeekCentury, value)]
  | .quarter => [(.quarter, value)]
  | .month => [(.month, value)]
  | .day => [(.day, value)]
  | .sundayWeek => [(.sundayWeek, value)]
  | .mondayWeek => [(.mondayWeek, value)]
  | .isoWeek => [(.isoWeek, value)]
  | .daysSinceSunday => [(.weekday, (value + 6) % 7)]
  | .weekdayFromMonday => [(.weekday, value - 1)]
  | .ordinal => [(.ordinal, value)]
  | .hour => [(.half, value / 12), (.hourOfHalf, value % 12)]
  | .hourOfHalf => [(.hourOfHalf, value % 12)]
  | .minute => [(.minute, value)]
  | .second => [(.second, value)]
  | .nanosecond => [(.nanosecond, value)]
  | .timestamp => [(.timestamp, value)]

end Quantity

namespace Reader

/-- A reader of a part adds what it reads to the clues. -/
abbrev Step := Clues → List Char → Option (Clues × List Char)

/-- The piece at the start of the text tells one thing. -/
def tell (aspect : Aspect) (scan : Scan Int) : Step := fun clues text => do
  let (value, rest) ← scan text
  let clues ← clues.note aspect value
  some (clues, rest)

/-- White space before a number is skipped. -/
def readNumber (quantity : Quantity) : Step := fun clues text => do
  let (value, rest) ← quantity.scan (Text.dropBlank text)
  if value < quantity.rule.least || quantity.rule.greatest < value then none
  else do
    let clues ← clues.noteAll (quantity.clues value)
    some (clues, rest)

/-- The steps are taken one after the other. -/
def inOrder : List Step → Step
  | [] => fun clues text => some (clues, text)
  | step :: steps => fun clues text => do
      let (clues, rest) ← step clues text
      inOrder steps clues rest

def literal (expected : List Char) : Step := fun clues text =>
  if expected.isPrefixOf text then some (clues, text.drop expected.length) else none

def space : Step := fun clues text => some (clues, Text.dropBlank text)

/-- Without a point there is no fraction. -/
def pointFraction (digits : Option Nat) : Step := fun clues text =>
  match text with
  | '.' :: rest => tell .nanosecond (digits.elim Scan.fraction Scan.exactFraction) clues rest
  | text => some (clues, text)

/-- The date and the time of day are separated by the letter T or by a space. -/
def dateMark : Step := fun clues text =>
  match text with
  | 't' :: rest | 'T' :: rest | ' ' :: rest => some (clues, rest)
  | _ => none

def zuluOffset : Scan Int := fun text =>
  match Scan.dropWord? ['u', 't', 'c'] text with
  | some rest => some (0, rest)
  | none => Scan.offset true false text

def timestampText : Step := inOrder [
  readNumber .year, space, literal ['-'], readNumber .month, space, literal ['-'],
  readNumber .day, dateMark, readNumber .hour, space, literal [':'], readNumber .minute, space,
  literal [':'], readNumber .second, pointFraction none, space, tell .offset zuluOffset]

def readItem : Item → Step
  | .literal expected => literal expected
  | .space => space
  | .number quantity => readNumber quantity
  | .monthName long => tell .month fun text =>
      (Scan.name long Scan.monthNames text).map fun (position, rest) => (position + 1, rest)
  | .weekdayName long => tell .weekday (Scan.name long Scan.weekdayNames)
  | .halfOfDay => tell .half (Scan.name false Scan.halves)
  | .pointFraction digits => pointFraction digits
  | .fixedFraction digits => tell .nanosecond (Scan.exactFraction digits)
  | .zoneName => fun clues text => some (clues, text.dropWhile (!Text.isBlankChar ·))
  | .offset permissive => fun clues text =>
      tell .offset (Scan.offset permissive permissive) clues (Text.dropBlank text)
  | .timestampText => timestampText
  | .faulty => fun _ _ => none

end Reader

/-- The date that a text has in a layout. -/
def Date.ofText? (layout : String) (text : List Char) : Option Date := do
  let (clues, rest) ← Reader.inOrder ((Layout.items layout.toList).map Reader.readItem) {} text
  if rest.isEmpty then clues.date? else none

/-- The layout of dates without a layout of their own. -/
def Layout.standard : String := "%Y-%m-%d"

end Forms.Calendar
