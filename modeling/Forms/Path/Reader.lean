/-
This file reads the texts of paths. The reader names the first place from the left where a text is
not the text of a path.
-/

import Forms.Path.Basic

namespace Forms

/-- The reasons why a text names no path, or a path names no field where one is needed. -/
inductive PathFault where
  | leadingPoint
  | emptyKey
  | unexpectedClose
  | unterminatedBracket
  | invalidIndex (content : String)
  | missingPoint (offset : Nat)
  | placeholderInConcrete
  | noSuchField
  | templateArray
deriving DecidableEq, Repr

def PathFault.details : PathFault → String
  | .leadingPoint => "leading '.'"
  | .emptyKey => "empty key"
  | .unexpectedClose => "unexpected ']'"
  | .unterminatedBracket => "unterminated '['"
  | .invalidIndex content => "invalid array index '" ++ content ++ "'"
  | .missingPoint offset => "missing '.' before key at offset " ++ toString offset
  | .placeholderInConcrete => "item placeholder in a concrete path"
  | .noSuchField => "no such field in form"
  | .templateArray => "array elements are added under a concrete path"

/-- A path error keeps the text that it is about. -/
structure PathError where
  text : String
  fault : PathFault
deriving DecidableEq, Repr

def PathError.message (error : PathError) : String :=
  "Malformed field path '" ++ error.text ++ "': " ++ error.fault.details

namespace Path

/-- The greatest position of an element. -/
def greatestPosition : Nat := Nat.pow 2 64 - 1

def decimalValue (digits : List Char) : Nat :=
  digits.foldl (fun total digit => total * 10 + (digit.toNat - '0'.toNat)) 0

/-- A position has at least one digit, and it may have a plus sign before the digits. -/
def readPosition? (content : List Char) : Option Nat :=
  let digits := match content with
    | '+' :: rest => rest
    | rest => rest
  if digits.isEmpty || !digits.all Char.isDigit then none
  else if decimalValue digits ≤ greatestPosition then some (decimalValue digits)
  else none

/-- The step that the content of a pair of brackets names. -/
def readBracket (content : List Char) : Except PathFault Step :=
  if content = ['*'] then .ok .item
  else
    match readPosition? content with
    | some position => .ok (.index position)
    | none => .error (.invalidIndex (String.ofList content))

def utf8Length (text : List Char) : Nat :=
  text.foldr (fun character total => character.utf8Size + total) 0

/-- The reader remembers whether a key may start here, whether a step came before, and how many
bytes it has passed. -/
structure Place where
  keyMayStart : Bool
  started : Bool
  offset : Nat

/-- The place after a step that took some characters. -/
def Place.after (place : Place) (taken : List Char) : Place :=
  ⟨false, true, place.offset + utf8Length taken⟩

/-- This function reads the steps of a text from a place in it. -/
def readSteps (place : Place) (text : List Char) : Except PathFault (List Step) :=
  match text with
  | [] => .ok []
  | '[' :: rest =>
      let content := rest.takeWhile (· != ']')
      match _equation : rest.dropWhile (· != ']') with
      | [] => .error .unterminatedBracket
      | _ :: following => do
          let step ← readBracket content
          let steps ← readSteps (place.after ('[' :: (content ++ [']']))) following
          .ok (step :: steps)
  | '.' :: rest =>
      if !place.started then .error .leadingPoint
      else
        match rest with
        | [] | '.' :: _ | '[' :: _ => .error .emptyKey
        | next :: following =>
            readSteps ⟨true, true, place.offset + 1⟩ (next :: following)
  | ']' :: _ => .error .unexpectedClose
  | first :: rest =>
      if !place.keyMayStart then .error (.missingPoint place.offset)
      else do
        let name := first :: rest.takeWhile (!isDelimiter ·)
        let steps ← readSteps (place.after name) (rest.dropWhile (!isDelimiter ·))
        .ok (.key (String.ofList name) :: steps)
termination_by text.length
decreasing_by
  · have shorter := (List.dropWhile_suffix (· != ']') (l := rest)).length_le
    rw [_equation] at shorter
    simp only [List.length_cons] at shorter ⊢
    omega
  · simp
  · have shorter := (List.dropWhile_suffix (!isDelimiter ·) (l := rest)).length_le
    simp only [List.length_cons]
    omega

/-- The path that a text names. -/
def ofText (text : String) : Except PathError Path :=
  match readSteps ⟨true, false, 0⟩ text.toList with
  | .ok steps => .ok ⟨steps⟩
  | .error fault => .error ⟨text, fault⟩

end Path

end Forms
