/-
This file reads texts into drafts. A draft shows the shape of a text as far as the text is well
formed, so a typed reader meets the faults of the text in the order in which they stand.
-/

import Forms.Decimal.Stepwise
import Forms.Json.Basic

namespace Forms

/-- A draft is a value that may stop where the text stops being well formed. A number out of range
and a string with an unpaired surrogate are faults only for a reader that needs them. -/
inductive Draft where
  | broken
  | null
  | bool (value : Bool)
  | number (value : Option Number)
  | string (text : Option String)
  | array (items : List Draft) (closed : Bool)
  | object (members : List (Option String × Draft)) (closed : Bool)
  /-- An opening brace is followed by a value that is no string. -/
  | keyless (first : Draft)
deriving Inhabited

namespace Draft

def isSpace (character : Char) : Bool :=
  character = ' ' || character = '\n' || character = '\t' || character = '\r'

def skipSpaces (text : List Char) : List Char := text.dropWhile isSpace

/-- The value of a hexadecimal digit in either case. -/
def hexValue? (character : Char) : Option Nat :=
  if '0' ≤ character ∧ character ≤ '9' then some (character.toNat - '0'.toNat)
  else if 'a' ≤ character ∧ character ≤ 'f' then some (character.toNat - 'a'.toNat + 10)
  else if 'A' ≤ character ∧ character ≤ 'F' then some (character.toNat - 'A'.toNat + 10)
  else none

/-- The value of four hexadecimal digits. -/
def hexUnit? (first second third fourth : Char) : Option Nat := do
  let a ← hexValue? first
  let b ← hexValue? second
  let c ← hexValue? third
  let d ← hexValue? fourth
  some (((a * 16 + b) * 16 + c) * 16 + d)

/-- The character of a short escape. -/
def shortEscape? (character : Char) : Option Char :=
  match character with
  | '"' => some '"'
  | '\\' => some '\\'
  | '/' => some '/'
  | 'b' => some '\x08'
  | 'f' => some '\x0c'
  | 'n' => some '\n'
  | 'r' => some '\r'
  | 't' => some '\t'
  | _ => none

/-- This function reads the units of a string up to its closing quote. Raw control characters and
unknown escapes end the text. -/
def scanString : List Char → Option (List Nat × List Char)
  | [] => none
  | '"' :: rest => some ([], rest)
  | '\\' :: 'u' :: first :: second :: third :: fourth :: rest => do
      let unit ← hexUnit? first second third fourth
      let (units, rest) ← scanString rest
      some (unit :: units, rest)
  | '\\' :: character :: rest => do
      let unit ← shortEscape? character
      let (units, rest) ← scanString rest
      some (unit.toNat :: units, rest)
  | character :: rest =>
      if character.toNat < 32 || character = '\\' then none
      else do
        let (units, rest) ← scanString rest
        some (character.toNat :: units, rest)

/-- A leading surrogate combines with a trailing one. An unpaired surrogate has no text. -/
def pairUnits : List Nat → Option (List Char)
  | [] => some []
  | [unit] => if 0xD800 ≤ unit ∧ unit ≤ 0xDFFF then none else some [Char.ofNat unit]
  | unit :: next :: units =>
      if 0xD800 ≤ unit ∧ unit ≤ 0xDBFF then
        if 0xDC00 ≤ next ∧ next ≤ 0xDFFF then
          (pairUnits units).map
            (Char.ofNat (0x10000 + (unit - 0xD800) * 0x400 + (next - 0xDC00)) :: ·)
        else none
      else if 0xDC00 ≤ unit ∧ unit ≤ 0xDFFF then none
      else (pairUnits (next :: units)).map (Char.ofNat unit :: ·)

def textOfUnits (units : List Nat) : Option String := (pairUnits units).map String.ofList

/-- The digits at the start of a text, and the text after them. -/
def scanDigits (text : List Char) : List Nat × List Char :=
  ((text.takeWhile Char.isDigit).map fun digit => digit.toNat - '0'.toNat,
    text.dropWhile Char.isDigit)

/-- The value of an exponent. -/
def exponentOf (negative : Bool) (digits : List Nat) : Int :=
  let magnitude : Nat := digits.foldl (fun total digit => total * 10 + digit) 0
  if negative then -magnitude else magnitude

/-- The optional exponent of a number. It needs at least one digit. -/
def scanExponent (text : List Char) : Option (Option Int × List Char) :=
  let signed (negative : Bool) (rest : List Char) :=
    match scanDigits rest with
    | ([], _) => none
    | (digits, rest) => some (some (exponentOf negative digits), rest)
  match text with
  | 'e' :: '+' :: rest | 'E' :: '+' :: rest => signed false rest
  | 'e' :: '-' :: rest | 'E' :: '-' :: rest => signed true rest
  | 'e' :: rest | 'E' :: rest => signed false rest
  | rest => some (none, rest)

/-- The optional fraction of a number. It needs at least one digit. -/
def scanFraction (text : List Char) : Option (Option (List Nat) × List Char) :=
  match text with
  | '.' :: rest =>
      match scanDigits rest with
      | ([], _) => none
      | (digits, rest) => some (some digits, rest)
  | rest => some (none, rest)

/-- A plain numeral is an integer while it fits the range of integers. Negative zero is a double. -/
def numberOfWhole (negative : Bool) (accumulator : Decimal.Accumulator) : Option Number :=
  if accumulator.full then (accumulator.toDouble? negative 0).map .double
  else if !negative then some (.int accumulator.significand)
  else if 0 < accumulator.significand ∧ accumulator.significand ≤ Nat.pow 2 63 then
    some (.int (-(accumulator.significand : Int)))
  else (accumulator.toDouble? negative 0).map .double

/-- The number that the parts of a numeral stand for. It has none beyond the range of doubles. -/
def numberOfParts (negative : Bool) (whole : List Nat) (fraction : Option (List Nat))
    (exponent : Option Int) : Option Number :=
  let accumulator := Decimal.Accumulator.ofWhole whole
  match fraction, exponent with
  | none, none => numberOfWhole negative accumulator
  | _, _ =>
      let complete := match fraction with
        | some digits => accumulator.addFraction digits
        | none => accumulator
      (complete.toDouble? negative (exponent.getD 0)).map .double

/-- A numeral has no leading zero before another digit. -/
def scanNumber (text : List Char) : Option (Option Number × List Char) := do
  let (negative, text) := match text with
    | '-' :: rest => (true, rest)
    | rest => (false, rest)
  match scanDigits text with
  | ([], _) => none
  | (0 :: _ :: _, _) => none
  | (whole, text) =>
      let (fraction, text) ← scanFraction text
      let (exponent, text) ← scanExponent text
      some (numberOfParts negative whole fraction exponent, text)

mutual

/-- This function reads one value and the text after it. There is no text after a value that
breaks. Every nested call has consumed a character, so the fuel can be the length of the text. -/
def scanValue (fuel : Nat) (text : List Char) : Draft × Option (List Char) :=
  match fuel with
  | 0 => (.broken, none)
  | fuel + 1 =>
      match skipSpaces text with
      | 'n' :: 'u' :: 'l' :: 'l' :: rest => (.null, some rest)
      | 't' :: 'r' :: 'u' :: 'e' :: rest => (.bool true, some rest)
      | 'f' :: 'a' :: 'l' :: 's' :: 'e' :: rest => (.bool false, some rest)
      | '"' :: rest =>
          match scanString rest with
          | some (units, rest) => (.string (textOfUnits units), some rest)
          | none => (.broken, none)
      | '[' :: rest =>
          match skipSpaces rest with
          | ']' :: rest => (.array [] true, some rest)
          | inside =>
              let (items, rest) := scanItems fuel inside
              (.array items rest.isSome, rest)
      | '{' :: rest =>
          match skipSpaces rest with
          | '}' :: rest => (.object [] true, some rest)
          | '"' :: inside =>
              let (members, rest) := scanMembers fuel inside
              (.object members rest.isSome, rest)
          | inside =>
              match scanValue fuel inside with
              | (.broken, _) => (.object [] false, none)
              | (first, _) => (.keyless first, none)
      | other =>
          match scanNumber other with
          | some (value, rest) => (.number value, some rest)
          | none => (.broken, none)

/-- The items of an array up to its closing bracket. -/
def scanItems (fuel : Nat) (text : List Char) : List Draft × Option (List Char) :=
  match fuel with
  | 0 => ([], none)
  | fuel + 1 =>
      match scanValue fuel text with
      | (item, none) => ([item], none)
      | (item, some rest) =>
          match skipSpaces rest with
          | ',' :: rest =>
              let (items, rest) := scanItems fuel rest
              (item :: items, rest)
          | ']' :: rest => ([item], some rest)
          | _ => ([item], none)

/-- The members of an object up to its closing brace. The text starts after the quote that opens the
first key. -/
def scanMembers (fuel : Nat) (text : List Char) : List (Option String × Draft) × Option (List Char) :=
  match fuel with
  | 0 => ([], none)
  | fuel + 1 =>
      match scanString text with
      | none => ([], none)
      | some (units, rest) =>
          let key := textOfUnits units
          match skipSpaces rest with
          | ':' :: rest =>
              match scanValue fuel rest with
              | (value, none) => ([(key, value)], none)
              | (value, some rest) =>
                  match skipSpaces rest with
                  | ',' :: rest =>
                      match skipSpaces rest with
                      | '"' :: rest =>
                          let (members, rest) := scanMembers fuel rest
                          ((key, value) :: members, rest)
                      | _ => ([(key, value)], none)
                  | '}' :: rest => ([(key, value)], some rest)
                  | _ => ([(key, value)], none)
          | _ => ([(key, .broken)], none)

end

/-- The draft of a whole text, and the text after it. -/
def ofText (text : String) : Draft × Option (List Char) :=
  scanValue (2 * text.length + 2) text.toList

/-- The text after a value may hold spaces only. -/
def endsText (rest : Option (List Char)) : Bool :=
  match rest with
  | some rest => (skipSpaces rest).isEmpty
  | none => false

mutual

/-- A whole draft is well formed to its end. -/
def whole : Draft → Bool
  | .broken => false
  | .null | .bool _ | .number _ | .string _ => true
  | .array items closed => wholeItems items && closed
  | .object members closed => wholeMembers members && closed
  | .keyless _ => false
termination_by structural draft => draft

def wholeItems : List Draft → Bool
  | [] => true
  | item :: items => item.whole && wholeItems items
termination_by structural items => items

def wholeMembers : List (Option String × Draft) → Bool
  | [] => true
  | member :: members => wholeMember member && wholeMembers members
termination_by structural members => members

def wholeMember : Option String × Draft → Bool
  | (_, value) => value.whole
termination_by structural member => member

end

mutual

/-- The value of a draft. Every fault of the text counts here, and so does nesting beyond the
room. -/
def toJson? (room : Nat) : Draft → Option Json
  | .broken => none
  | .null => some .null
  | .bool value => some (.bool value)
  | .number value => value.map .number
  | .string text => text.map .string
  | .array items closed =>
      match room with
      | 0 => none
      | room + 1 => (itemsToJson? room items).bind fun items =>
          if closed then some (.array items) else none
  | .object members closed =>
      match room with
      | 0 => none
      | room + 1 => (membersToJson? room members).bind fun members =>
          if closed then some (.object (Json.collectMembers members)) else none
  | .keyless _ => none
termination_by structural draft => draft

def itemsToJson? (room : Nat) : List Draft → Option (List Json)
  | [] => some []
  | item :: items =>
      (item.toJson? room).bind fun item => (itemsToJson? room items).map (item :: ·)
termination_by structural items => items

def membersToJson? (room : Nat) : List (Option String × Draft) → Option (List (String × Json))
  | [] => some []
  | member :: members =>
      (memberToJson? room member).bind fun member => (membersToJson? room members).map (member :: ·)
termination_by structural members => members

def memberToJson? (room : Nat) : Option String × Draft → Option (String × Json)
  | (key, value) => key.bind fun key => (value.toJson? room).map fun value => (key, value)
termination_by structural member => member

end

/-- A value may hold this many values one inside the other. -/
def nestingRoom : Nat := 127

end Draft

/-- The value that a text stands for. -/
def Json.ofText? (text : String) : Option Json :=
  match Draft.ofText text with
  | (draft, rest) => if Draft.endsText rest then draft.toJson? Draft.nestingRoom else none

end Forms
