/-
This file reads the numbers that people type into fields. The value of a numeral is exact until it is
rounded once, to the nearest double.
-/

import Forms.Decimal.Shortest
import Forms.Text.Blank

namespace Forms.Decimal

/-- A typed numeral has a sign, digits before and after the point, and an exponent. -/
structure Typed where
  negative : Bool
  whole : List Char
  fraction : List Char
  exponent : Int
deriving DecidableEq, Repr

/-- The value of a list of decimal digits. -/
def digitsValue (digits : List Char) : Nat :=
  digits.foldl (fun total digit => total * 10 + (digit.toNat - '0'.toNat)) 0

/-- A sign may stand before digits. -/
def takeSign : List Char → Bool × List Char
  | '-' :: rest => (true, rest)
  | '+' :: rest => (false, rest)
  | rest => (false, rest)

/-- An exponent has at least one digit. It may have a sign of its own. -/
def readExponent? : List Char → Option Int
  | [] => some 0
  | mark :: rest =>
      let (negative, digits) := takeSign rest
      if (mark = 'e' || mark = 'E') && !digits.isEmpty && digits.all Char.isDigit then
        some (if negative then -(digitsValue digits : Int) else digitsValue digits)
      else none

/-- A numeral has at least one digit, before the point or after it. -/
def Typed.ofChars? (text : List Char) : Option Typed :=
  let (negative, unsigned) := takeSign text
  let whole := unsigned.takeWhile Char.isDigit
  let afterWhole := unsigned.dropWhile Char.isDigit
  let (fraction, rest) := match afterWhole with
    | '.' :: afterPoint => (afterPoint.takeWhile Char.isDigit, afterPoint.dropWhile Char.isDigit)
    | other => ([], other)
  if whole.isEmpty && fraction.isEmpty then none
  else (readExponent? rest).map fun exponent => ⟨negative, whole, fraction, exponent⟩

/-- The digits of a numeral without its point. -/
def Typed.significand (typed : Typed) : Nat := digitsValue (typed.whole ++ typed.fraction)

/-- The power of ten that the significand is scaled by. -/
def Typed.scale (typed : Typed) : Int := typed.exponent - typed.fraction.length

/-- The double nearest to a numeral. Numerals beyond every double have none. Far below the least
double only zero is near. -/
def Typed.toDouble? (typed : Typed) : Option Double :=
  let size : Int := digitCount typed.significand + typed.scale
  if typed.significand = 0 then some (Double.zero typed.negative)
  else if 310 < size then none
  else if size < -330 then some (Double.zero typed.negative)
  else
    Double.ofRatio? typed.negative (typed.significand * Nat.pow 10 typed.scale.toNat)
      (Nat.pow 10 (-typed.scale).toNat)

/-- The number that a text stands for. White space around the numeral does not matter, and the names
of infinities stand for no number. -/
def nearest? (text : String) : Option Double :=
  (Typed.ofChars? (Text.trim text.toList)).bind Typed.toDouble?

example : nearest? " +18 " = Double.ofInt? 18 := by decide +kernel
example : nearest? "18." = Double.ofInt? 18 := by decide +kernel
example : nearest? ".5e1" = Double.ofInt? 5 := by decide +kernel
example : nearest? "." = none := by decide +kernel
example : nearest? "1e" = none := by decide +kernel
example : nearest? "1_000" = none := by decide +kernel
example : nearest? "1e999" = none := by decide +kernel
example : nearest? "0e999" = some (Double.zero false) := by decide +kernel
example : nearest? "inf" = none := by decide +kernel

end Forms.Decimal
