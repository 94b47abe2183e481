/-
This file writes values as compact text. The text has no spaces, and every member stands in its own
order.
-/

import Forms.Decimal.Shortest
import Forms.Json.Basic

namespace Forms

/-- A number layout decides how the shortest numeral of a double is written. -/
structure NumberLayout where
  /-- The least exponent that is written with a plain point. -/
  leastPlain : Int
  /-- The first exponent above the plain ones. -/
  beyondPlain : Int

/-- Numbers from 0.00001 up to, and without, ten to the power 16 have a plain point. -/
def NumberLayout.compact : NumberLayout := ⟨-5, 16⟩

namespace NumberLayout

def digitsOf (value : Nat) : List Char := Nat.toDigits 10 value

/-- A plain numeral has at least one digit on both sides of the point. -/
def plain (digits : List Char) (exponent : Int) : List Char :=
  if exponent < 0 then
    ['0', '.'] ++ List.replicate (-exponent - 1).toNat '0' ++ digits
  else
    let whole := exponent.toNat + 1
    let fraction := digits.drop whole
    digits.take whole ++ List.replicate (whole - digits.length) '0' ++ ['.'] ++
      (if fraction.isEmpty then ['0'] else fraction)

/-- A scientific numeral has one digit before the point and always writes the sign of its
exponent. -/
def scientific (digits : List Char) (exponent : Int) : List Char :=
  let fraction := digits.drop 1
  digits.take 1 ++ (if fraction.isEmpty then [] else '.' :: fraction) ++
    ['e', if exponent < 0 then '-' else '+'] ++ digitsOf exponent.natAbs

def magnitude (layout : NumberLayout) (rank : Nat) : List Char :=
  if rank = 0 then ['0', '.', '0']
  else
    let numeral := Decimal.shortest rank
    let digits := digitsOf numeral.digits
    if layout.leastPlain ≤ numeral.exponent && numeral.exponent < layout.beyondPlain then
      plain digits numeral.exponent
    else scientific digits numeral.exponent

def double (layout : NumberLayout) (value : Double) : List Char :=
  (if value.negative then ['-'] else []) ++ layout.magnitude value.rank

def int (value : Int) : List Char :=
  (if value < 0 then ['-'] else []) ++ digitsOf value.natAbs

end NumberLayout

/-- An integer has no point and no exponent, so its text never equals the text of a double. -/
def Number.chars : Number → List Char
  | .int value => NumberLayout.int value
  | .double value => NumberLayout.compact.double value

def Number.text (value : Number) : String := String.ofList value.chars

namespace Json

/-- A lower-case hexadecimal digit. -/
def hexDigit (value : Nat) : Char := Nat.digitChar (value % 16)

/-- The escape of one character inside a quoted text. Most characters stand for themselves. -/
def escaped (character : Char) : List Char :=
  match character with
  | '"' => ['\\', '"']
  | '\\' => ['\\', '\\']
  | '\n' => ['\\', 'n']
  | '\r' => ['\\', 'r']
  | '\t' => ['\\', 't']
  | '\x08' => ['\\', 'b']
  | '\x0c' => ['\\', 'f']
  | other =>
      if other.toNat < 32 then
        ['\\', 'u', '0', '0', hexDigit (other.toNat / 16), hexDigit other.toNat]
      else [other]

def quoted (text : String) : List Char := '"' :: (text.toList.flatMap escaped ++ ['"'])

mutual

def chars : Json → List Char
  | .null => ['n', 'u', 'l', 'l']
  | .bool true => ['t', 'r', 'u', 'e']
  | .bool false => ['f', 'a', 'l', 's', 'e']
  | .number value => value.chars
  | .string text => quoted text
  | .array items => '[' :: itemsChars items
  | .object members => '{' :: membersChars members
termination_by structural value => value

/-- The items are separated by commas and end with the closing bracket. -/
def itemsChars : List Json → List Char
  | [] => [']']
  | [item] => item.chars ++ [']']
  | item :: next :: items => item.chars ++ ',' :: itemsChars (next :: items)
termination_by structural items => items

/-- The members are separated by commas and end with the closing brace. -/
def membersChars : List (String × Json) → List Char
  | [] => ['}']
  | [member] => memberChars member ++ ['}']
  | member :: next :: members => memberChars member ++ ',' :: membersChars (next :: members)
termination_by structural members => members

def memberChars : String × Json → List Char
  | (key, value) => quoted key ++ ':' :: value.chars
termination_by structural member => member

end

/-- The compact text of a value. -/
def text (value : Json) : String := String.ofList value.chars

/-- A string stands for itself where a message shows it. Any other value stands for its text. -/
def shown : Json → String
  | .string text => text
  | value => value.text

end Json

end Forms
