/-
This file holds the expressions that patterns stand for. An expression describes the texts that a
pattern matches, and nothing of how they are found. Expressions are built in a simple form: a
sequence holds no sequences and no two literals side by side, a choice holds no choices, and parts
that all branches start with stand before the choice.
-/

import Forms.Pattern.CharSet
import Forms.Pattern.Reader

namespace Forms.Pattern

/-- A condition on a place in a text. -/
inductive Look where
  | start
  | finish
  | lineStart
  | lineFinish
  | lineStartReturn
  | lineFinishReturn
  | word (unicode : Bool)
  | notWord (unicode : Bool)
  | wordStart (unicode : Bool)
  | wordEnd (unicode : Bool)
  | wordStartHalf (unicode : Bool)
  | wordEndHalf (unicode : Bool)
deriving DecidableEq, Repr

/-- An expression. A repetition without an upper count has no end, and a greedy one prefers more rounds
to fewer. A set remembers whether its members were meant as bytes. -/
inductive Expression where
  | empty
  | literal (text : List Char)
  | chars (set : CharSet) (asBytes : Bool)
  | look (look : Look)
  /-- A group that is captured. -/
  | group (body : Expression)
  | repetition (body : Expression) (least : Nat) (most : Option Nat) (greedy : Bool)
  | sequence (parts : List Expression)
  | choice (branches : List Expression)

namespace Expression

mutual

/-- An expression that matches only the empty text. -/
def takesNothing : Expression → Bool
  | .empty | .look _ => true
  | .literal _ | .chars _ _ => false
  | .group body => body.takesNothing
  | .repetition body _ most _ => most.isSome && body.takesNothing
  | .sequence parts => allTakeNothing parts
  | .choice branches => allTakeNothing branches
termination_by structural expression => expression

def allTakeNothing : List Expression → Bool
  | [] => true
  | part :: parts => part.takesNothing && allTakeNothing parts
termination_by structural parts => parts

end

mutual

/-- Two expressions are built alike. A captured group is like no other one. -/
def isLike : Expression → Expression → Bool
  | .empty, .empty => true
  | .literal left, .literal right => left == right
  | .chars left asBytes, .chars right otherAsBytes => left == right && asBytes == otherAsBytes
  | .look left, .look right => left == right
  | .repetition left least most greedy, .repetition right otherLeast otherMost otherGreedy =>
      left.isLike right && least == otherLeast && most == otherMost && greedy == otherGreedy
  | .sequence left, .sequence right => areLike left right
  | .choice left, .choice right => areLike left right
  | _, _ => false
termination_by structural expression => expression

def areLike : List Expression → List Expression → Bool
  | [], [] => true
  | left :: lefts, right :: rights => left.isLike right && areLike lefts rights
  | _, _ => false
termination_by structural expressions => expressions

end

/-- A set with one member is a literal. There is only one set without members. -/
def ofSet (set : CharSet) (asBytes : Bool) : Expression :=
  match set.spans with
  | [] => .chars .empty false
  | [span] => if span.first = span.last then .literal [Char.ofNat span.first] else .chars set asBytes
  | _ => .chars set asBytes

/-- The parts that an expression has in a sequence. -/
def partsOf : Expression → List Expression
  | .empty => []
  | .sequence parts => parts
  | other => [other]

/-- Two literals side by side are one literal. -/
def addPart : Expression → List Expression → List Expression
  | .literal text, .literal next :: parts => .literal (text ++ next) :: parts
  | part, parts => part :: parts

def ofParts (expressions : List Expression) : Expression :=
  match (expressions.flatMap partsOf).foldr addPart [] with
  | [] => .empty
  | [part] => part
  | parts => .sequence parts

/-- The branches that an expression has in a choice. -/
def branchesOf : Expression → List Expression
  | .choice branches => branches
  | other => [other]

/-- The code of a literal with one character. -/
def singleCode? : Expression → Option Nat
  | .literal [character] => some character.toNat
  | _ => none

def set? : Expression → Option CharSet
  | .chars set _ => some set
  | _ => none

/-- Branches that are single characters, or that are sets, make one set. -/
def setOfBranches? (branches : List Expression) : Option CharSet :=
  match branches.mapM singleCode? with
  | some codes => some (.ofCodes codes)
  | none => (branches.mapM set?).map fun sets => sets.foldl Unicode.Table.union .empty

/-- Branches without a common start make a choice. -/
def joinBranches (expressions : List Expression) : Expression :=
  match expressions.flatMap branchesOf with
  | [branch] => branch
  | branches =>
      match setOfBranches? branches with
      | some set => ofSet set false
      | none => .choice branches

def parts? : Expression → Option (List Expression)
  | .sequence parts => some parts
  | _ => none

/-- The parts that two sequences start with. -/
def commonParts : List Expression → List Expression → List Expression
  | left :: lefts, right :: rights =>
      if left.isLike right then left :: commonParts lefts rights else []
  | _, _ => []

/-- What all branches start with stands before the choice of their endings. -/
def ofBranches (expressions : List Expression) : Expression :=
  let joined := joinBranches expressions
  match (branchesOf joined).mapM parts? with
  | some (first :: second :: others) =>
      let common := (second :: others).foldl commonParts first
      if common.isEmpty then joined
      else ofParts (common ++
        [joinBranches ((first :: second :: others).map fun parts =>
          ofParts (parts.drop common.length))])
  | _ => joined

/-- An expression that matches only the empty text need not be repeated. -/
def repeated (body : Expression) (least : Nat) (most : Option Nat) (greedy : Bool) : Expression :=
  let least := if body.takesNothing then min least 1 else least
  let most := if body.takesNothing then some (min (most.getD 1) 1) else most
  if most = some 0 then .empty
  else if least = 1 ∧ most = some 1 then body
  else .repetition body least most greedy

end Expression

namespace Mode

/-- The condition of an assertion. -/
def look (mode : Mode) (anchor : Anchor) : Look :=
  match anchor with
  | .startText => .start
  | .endText => .finish
  | .startLine =>
      if !mode.multiLine then .start
      else if mode.carriageReturn then .lineStartReturn
      else .lineStart
  | .endLine =>
      if !mode.multiLine then .finish
      else if mode.carriageReturn then .lineFinishReturn
      else .lineFinish
  | .wordBoundary => .word mode.unicode
  | .notWordBoundary => .notWord mode.unicode
  | .wordStart => .wordStart mode.unicode
  | .wordEnd => .wordEnd mode.unicode
  | .wordStartHalf => .wordStartHalf mode.unicode
  | .wordEndHalf => .wordEndHalf mode.unicode

/-- Without Unicode the members of a set are meant as bytes. -/
def chars (mode : Mode) (set : CharSet) : Expression := .ofSet set !mode.unicode

mutual

/-- The expression of a tree, and the flags after it. Flags last to the end of their group. -/
def resolve? (mode : Mode) : Tree → Option (Expression × Mode)
  | .empty => some (.empty, mode)
  | .flags changes => some (.empty, mode.applyAll changes)
  | .literal literal => (mode.literal? literal).map fun character =>
      (mode.chars (mode.fold (.just character)), mode)
  | .dot => mode.dot?.map fun set => (mode.chars set, mode)
  | .anchor anchor => some (.look (mode.look anchor), mode)
  | .short negated kind => (mode.short? negated kind).map fun set => (mode.chars set, mode)
  | .named negated query => (mode.named? negated query).map fun set => (mode.chars set, mode)
  | .bracketed negated content => do
      let set ← mode.classSet? content
      let set ← mode.close negated set
      some (mode.chars set, mode)
  | .repetition body least most greedy => do
      let (body, mode) ← mode.resolve? body
      some (.repeated body least most (greedy != mode.swapGreed), mode)
  | .group captured changes body => do
      let (body, _) ← (mode.applyAll changes).resolve? body
      some (if captured then .group body else body, mode)
  | .alternation branches => do
      let (branches, mode) ← mode.resolveAll? branches
      some (.ofBranches branches, mode)
  | .concatenation parts => do
      let (parts, mode) ← mode.resolveAll? parts
      some (.ofParts parts, mode)
termination_by structural tree => tree

def resolveAll? (mode : Mode) : List Tree → Option (List Expression × Mode)
  | [] => some ([], mode)
  | tree :: trees => do
      let (first, mode) ← mode.resolve? tree
      let (others, mode) ← mode.resolveAll? trees
      some (first :: others, mode)
termination_by structural trees => trees

end

end Mode

/-- The expression of a tree, if all its classes exist. -/
def Expression.ofTree? (tree : Tree) : Option Expression :=
  (Mode.standard.resolve? tree).map (·.1)

end Forms.Pattern
