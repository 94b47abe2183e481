/-
This file says what an expression tells of its matches before a text is known: the least length of a
match, and whether every match is bound to one end of the text.
-/

import Forms.Pattern.Expression

namespace Forms.Pattern

/-- A text is read from its start or from its end. -/
inductive Direction where
  | forward
  | backward
deriving DecidableEq, Repr

namespace Expression

mutual

/-- The least length of a text that an expression matches. Without such a text there is none. -/
def leastLength? : Expression → Option Nat
  | .empty | .look _ => some 0
  | .literal text => some text.length
  | .chars set _ => if set.isEmpty then none else some 1
  | .group body => body.leastLength?
  | .repetition body least _ _ => body.leastLength?.map (least * ·)
  | .sequence parts => totalLength? parts
  | .choice branches => shortestLength? branches
termination_by structural expression => expression

def totalLength? : List Expression → Option Nat
  | [] => some 0
  | part :: parts => do
      let first ← part.leastLength?
      let others ← totalLength? parts
      some (first + others)
termination_by structural parts => parts

def shortestLength? : List Expression → Option Nat
  | [] => none
  | [branch] => branch.leastLength?
  | branch :: next :: branches => do
      let first ← branch.leastLength?
      let others ← shortestLength? (next :: branches)
      some (min first others)
termination_by structural branches => branches

end

/-- The empty text is no match. -/
def needsText (expression : Expression) : Bool :=
  match expression.leastLength? with
  | some length => 0 < length
  | none => false

mutual

/-- Every match starts where the text starts, for reading forward, or ends where the text ends, for
reading backward. -/
def isAnchored (direction : Direction) : Expression → Bool
  | .look condition => condition = match direction with
      | .forward => .start
      | .backward => .finish
  | .empty | .literal _ | .chars _ _ => false
  | .group body => body.isAnchored direction
  | .repetition body least _ _ => 0 < least && body.isAnchored direction
  | .sequence parts => isSequenceAnchored direction parts
  | .choice branches => areAnchored direction branches
termination_by structural expression => expression

/-- Parts that take nothing may stand outside the part that is anchored. -/
def isSequenceAnchored (direction : Direction) : List Expression → Bool
  | [] => false
  | part :: parts =>
      match direction with
      | .forward => part.isAnchored direction ||
          (part.takesNothing && isSequenceAnchored direction parts)
      | .backward => isSequenceAnchored direction parts ||
          (allTakeNothing parts && part.isAnchored direction)
termination_by structural parts => parts

def areAnchored (direction : Direction) : List Expression → Bool
  | [] => true
  | branch :: branches => branch.isAnchored direction && areAnchored direction branches
termination_by structural branches => branches

end

end Expression

end Forms.Pattern
