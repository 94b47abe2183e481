/-
This file assembles the machines for an expression. A pattern is matched by two machines. One of them
reads texts forward and notes where captured groups start and end, and the other one reads texts
backward. A pattern is refused when it needs machines and one of them takes too much room.
-/

import Forms.Pattern.Machine
import Forms.Pattern.Opening

namespace Forms.Pattern

namespace Build

/-- A repetition copies its piece for each time that it has to come or may come. A fork before a piece
leads around it, and a fork behind it leads back. -/
def repetition (piece : Build Unit) (needsText : Bool) (least : Nat) (most : Option Nat) :
    Build Unit := do
  let closed : Build Unit := do piece; close
  let copies : Build Unit := do times closed (least - 1); piece
  match most with
  | none =>
      if 0 < least then do times closed least; fork 1; endInFork
      else if needsText then do fork 1; closed; endInFork
      else do closed; states 3 (4 * Machine.linkSize)
  | some most =>
      if least = most then copies
      else if most = 1 then do fork 2; closed; states 1 0
      else do
        if 0 < least then copies else states 1 0
        close
        states 1 0
        times (do fork 2; closed) (most - least)

end Build

namespace Expression

def literal? : Expression → Option (List Char)
  | .literal text => some text
  | _ => none

mutual

/-- The piece of a machine for an expression. A machine that reads backward captures no groups. -/
def build (direction : Direction) : Expression → Build Unit
  | .empty | .look _ => Build.states 1 0
  | .literal text => Build.states (bytesOf text).length 0
  | .chars set _ => Build.set direction set
  | .group body =>
      match direction with
      | .forward => do
          Build.states 1 0
          body.build direction
          Build.close
          Build.states 1 0
      | .backward => body.build direction
  | .repetition body least most _ =>
      Build.repetition (body.build direction) body.needsText least most
  | .sequence parts => buildSequence direction parts
  | .choice branches =>
      match branches.mapM literal? with
      | some texts => Build.literals direction texts
      | none => buildBranches direction 0 branches
termination_by structural expression => expression

def buildSequence (direction : Direction) : List Expression → Build Unit
  | [] => pure ()
  | [part] => part.build direction
  | part :: next :: parts =>
      match direction with
      | .forward => do
          part.build direction
          Build.close
          buildSequence direction (next :: parts)
      | .backward => do
          buildSequence direction (next :: parts)
          Build.close
          part.build direction
termination_by structural parts => parts

/-- The fork of a choice and the state behind it are built after the second branch. -/
def buildBranches (direction : Direction) (before : Nat) : List Expression → Build Unit
  | [] => pure ()
  | branch :: branches => do
      branch.build direction
      Build.close
      match before with
      | 0 => pure ()
      | 1 => do Build.fork 2; Build.states 1 0
      | _ => Build.link
      buildBranches direction (before + 1) branches
termination_by structural branches => branches

end

/-- A machine first moves to where a match may start, and it ends in a state that reports the match.
The whole match is captured like a group. -/
def buildMachine (direction : Direction) (expression : Expression) : Build Unit := do
  if expression.isAnchored direction then Build.states 1 0
  else Build.states 3 (Machine.rangeSize + 2 * Machine.linkSize)
  (Expression.group expression).build direction
  Build.close
  Build.states 1 0

/-- Both machines of an expression stay below the limit, or none is needed. -/
def fits (expression : Expression) : Bool :=
  expression.isFoundByOpenings || [Direction.forward, Direction.backward].all fun direction =>
    ((expression.buildMachine direction).run {}).isSome

/-- The expression of a text, if the text is a pattern. -/
def ofText? (text : String) : Option Expression := do
  let tree ← Tree.ofText? text
  let expression ← ofTree? tree
  if expression.fits then some expression else none

end Expression

end Forms.Pattern
