/-
This file finds the texts that the matches of an expression start with. When a text holds a match as
soon as it holds one of these openings, and there are few of them, the text is searched for the
openings and the expression needs no machine.
-/

import Forms.Pattern.Bytes
import Forms.Pattern.Expression

namespace Forms.Pattern

/-- The bytes that a match may start with. A whole opening is a match by itself. -/
structure Opening where
  bytes : List UInt8
  whole : Bool
deriving DecidableEq, Repr

namespace Opening

def unfinished (opening : Opening) : Opening := { opening with whole := false }

/-- Only the first bytes are kept. An opening is not whole any more once a byte is cut off. -/
def cut (limit : Nat) (opening : Opening) : Opening :=
  if opening.bytes.length ≤ limit then opening else ⟨opening.bytes.take limit, false⟩

/-- A whole opening goes on with another one. -/
def append (opening next : Opening) : Opening := ⟨opening.bytes ++ next.bytes, next.whole⟩

/-- Neighbours with the same bytes are one opening, which is whole if both are. -/
def addFront (opening : Opening) : List Opening → List Opening
  | next :: rest =>
      if opening.bytes = next.bytes then ⟨next.bytes, opening.whole && next.whole⟩ :: rest
      else opening :: next :: rest
  | [] => [opening]

end Opening

/-- The openings of an expression, with the preferred ones first. There is no list of them when they are
too many. -/
abbrev Openings := Option (List Opening)

namespace Openings

/-- A list may have this many openings. -/
def countLimit : Nat := 250

/-- An opening may have this many bytes. -/
def bytesLimit : Nat := 100

/-- Openings that are too many together keep this many bytes. -/
def shortLimit : Nat := 4

/-- A set may have this many members. -/
def membersLimit : Nat := 10

/-- The openings of this many rounds are followed. -/
def roundsLimit : Nat := 10

/-- The opening of a match that takes nothing. -/
def start : Openings := some [⟨[], true⟩]

def ofList (openings : List Opening) : Openings := some (openings.foldr Opening.addFront [])

def unfinished (openings : Openings) : Openings := openings.map (·.map Opening.unfinished)

/-- Nothing that follows can change the openings. -/
def isSettled : Openings → Bool
  | none => true
  | some openings => openings.all (!·.whole)

/-- The openings of two expressions. Too many of them are shortened first. -/
def union : Openings → Openings → Openings
  | some left, some right =>
      if left.length + right.length ≤ countLimit then ofList (left ++ right)
      else do
        let left ← ofList (left.map (.cut shortLimit))
        let right ← ofList (right.map (.cut shortLimit))
        if left.length + right.length ≤ countLimit then ofList (left ++ right) else none
  | _, _ => none

/-- The openings of two expressions in a row. Where any text may follow, an opening without bytes can
become any text. -/
def follow : Openings → Openings → Openings
  | none, _ => none
  | some left, right =>
      match right.filter fun right => left.length * right.length ≤ countLimit with
      | none =>
          if left.any (·.bytes.isEmpty) then none else some (left.map Opening.unfinished)
      | some right =>
          (ofList (left.flatMap fun opening =>
            if opening.whole then right.map opening.append else [opening])).map
              (·.map (.cut bytesLimit))

def ofSet (set : CharSet) : Openings :=
  let codes := set.spans.map fun span => (span.first, span.last - span.first + 1)
  if membersLimit < codes.foldl (fun total code => total + code.2) 0 then none
  else some ((codes.flatMap fun (first, count) => List.range' first count).map fun code =>
    ⟨bytesOf [Char.ofNat code], true⟩)

/-- A number of rounds are followed as long as one of them can change the openings. -/
def followTimes (round : Openings) : (count : Nat) → Openings → Openings
  | 0, openings => openings
  | count + 1, openings =>
      if openings.isSettled then openings else followTimes round count (openings.follow round)

/-- The openings of a repetition. A greedy one prefers a round to the empty match. -/
def ofRepetition (round : Openings) (least : Nat) (most : Option Nat) (greedy : Bool) : Openings :=
  if least = 0 then
    let round := if most = some 1 then round else round.unfinished
    if greedy then round.union start else start.union round
  else
    let rounds := followTimes round (min least roundsLimit) start
    if most = some least ∧ least ≤ roundsLimit then rounds else rounds.unfinished

/-- An opening is never reached when an earlier one is its start. -/
def reachable (openings : List Opening) : List Opening :=
  openings.foldl (fun kept opening =>
    if kept.any (·.bytes.isPrefixOf opening.bytes) then kept else kept ++ [opening]) []

def commonBytes : List UInt8 → List UInt8 → List UInt8
  | left :: lefts, right :: rights => if left = right then left :: commonBytes lefts rights else []
  | _, _ => []

/-- The bytes that all openings start with. -/
def commonStart : List Opening → List UInt8
  | [] => []
  | first :: others => others.foldl (fun common opening => commonBytes common opening.bytes) first.bytes

/-- The ASCII characters that are frequent in texts of all kinds. -/
def frequentChars : List Char := "\n\r (),-./0129:_abcdefghilmnoprstuvxy|".toList

/-- A byte that is rare in texts is searched for by itself. -/
def isRare (byte : UInt8) : Bool := byte < 0x80 && !frequentChars.contains (Char.ofNat byte.toNat)

/-- Long lists are shortened step by step. A step says how many bytes are kept when a list has more
openings than a limit. -/
def shortened : List (Nat × Nat) → List Opening → List Opening
  | [], openings => openings
  | (kept, limit) :: steps, openings =>
      if openings.length ≤ limit then openings
      else shortened steps (reachable (openings.map (.cut kept)))

def steps : List (Nat × Nat) := [(5, 10), (4, 10), (3, 64), (2, 64), (1, 10)]

/-- A shortened list is used only if it has few openings and all of them have some bytes. -/
def isUseful (openings : List Opening) : Bool :=
  openings.length ≤ 64 && openings.all fun opening => 2 < opening.bytes.length

/-- A search for what the openings have in common, or for their first bytes alone, still needs a machine
to confirm a match. A search for whole openings does not. -/
def suffice (openings : List Opening) : Bool :=
  let kept := reachable openings
  let common := commonStart kept
  if kept.isEmpty || kept.any fun opening => !opening.whole || opening.bytes.isEmpty then false
  else if 1 < openings.length && common.length ≤ 3 && common.head?.any isRare then
    kept.all fun opening => opening.bytes.length ≤ 1
  else if 4 < common.length || (1 < common.length && 16 < kept.length) then kept.length = 1
  else
    let short := shortened steps kept
    short.all (·.whole) || !isUseful short

example : suffice [⟨[120], true⟩, ⟨[120, 97], false⟩] = true := by decide +kernel
example : suffice [⟨[120, 97], false⟩, ⟨[120], true⟩] = false := by decide +kernel

end Openings

namespace Expression

mutual

/-- An expression without captured groups and without conditions. -/
def isPlain : Expression → Bool
  | .empty | .literal _ | .chars _ _ => true
  | .look _ | .group _ => false
  | .repetition body _ _ _ => body.isPlain
  | .sequence parts => arePlain parts
  | .choice branches => arePlain branches
termination_by structural expression => expression

def arePlain : List Expression → Bool
  | [] => true
  | part :: parts => part.isPlain && arePlain parts
termination_by structural parts => parts

end

mutual

def openings : Expression → Openings
  | .empty | .look _ => .start
  | .literal text => some [.cut Openings.bytesLimit ⟨bytesOf text, true⟩]
  | .chars set _ => .ofSet set
  | .group body => body.openings
  | .repetition body least most greedy => .ofRepetition body.openings least most greedy
  | .sequence parts => openingsOfParts .start parts
  | .choice branches => openingsOfBranches (some []) branches
termination_by structural expression => expression

def openingsOfParts (before : Openings) : List Expression → Openings
  | [] => before
  | part :: parts =>
      if before.isSettled then before else openingsOfParts (before.follow part.openings) parts
termination_by structural parts => parts

def openingsOfBranches (before : Openings) : List Expression → Openings
  | [] => before
  | branch :: branches => openingsOfBranches (before.union branch.openings) branches
termination_by structural branches => branches

end

/-- Its openings are all that has to be found. -/
def isFoundByOpenings (expression : Expression) : Bool :=
  expression.isPlain && (expression.openings.bind Openings.ofList).any Openings.suffice

end Expression

end Forms.Pattern
