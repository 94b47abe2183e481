/-
This file holds the trees of patterns. A tree keeps the flags where they are written, and it
does not yet say which characters a class has.
-/

namespace Forms.Pattern

/-- The flags that change the meaning of a pattern. -/
inductive Flag where
  | ignoreCase
  | multiLine
  | dotAll
  | swapGreed
  | unicode
  | spaced
  | carriageReturn
deriving DecidableEq, Repr

/-- A flag is switched on or off. -/
structure FlagChange where
  flag : Flag
  enabled : Bool
deriving DecidableEq, Repr

/-- The character classes with a one-letter escape. -/
inductive ShortClass where
  | digit
  | space
  | word
deriving DecidableEq, Repr

/-- The character classes with a name between colons. -/
inductive AsciiClass where
  | alnum
  | alpha
  | ascii
  | blank
  | cntrl
  | digit
  | graph
  | lower
  | print
  | punct
  | space
  | upper
  | word
  | xdigit
deriving DecidableEq, Repr

/-- The query of a class of characters by name. -/
inductive ClassQuery where
  | name (name : List Char)
  | pair (name value : List Char)
deriving DecidableEq, Repr

/-- The places in a text that an assertion can ask for. -/
inductive Anchor where
  | startLine
  | endLine
  | startText
  | endText
  | wordBoundary
  | notWordBoundary
  | wordStart
  | wordEnd
  | wordStartHalf
  | wordEndHalf
deriving DecidableEq, Repr

/-- A literal remembers whether it was written as one byte. -/
structure Literal where
  character : Char
  asByte : Bool
deriving DecidableEq, Repr

/-- The items inside the brackets of a class. -/
inductive ClassTree where
  | empty
  | literal (literal : Literal)
  | range (first last : Literal)
  | ascii (negated : Bool) (kind : AsciiClass)
  | short (negated : Bool) (kind : ShortClass)
  | named (negated : Bool) (query : ClassQuery)
  | bracketed (negated : Bool) (content : ClassTree)
  | union (items : List ClassTree)
  | intersection (left right : ClassTree)
  | difference (left right : ClassTree)
  | symmetricDifference (left right : ClassTree)

/-- The tree of a pattern. -/
inductive Tree where
  | empty
  | flags (changes : List FlagChange)
  | literal (literal : Literal)
  | dot
  | anchor (anchor : Anchor)
  | short (negated : Bool) (kind : ShortClass)
  | named (negated : Bool) (query : ClassQuery)
  | bracketed (negated : Bool) (content : ClassTree)
  /-- A greedy repetition prefers more rounds to fewer. -/
  | repetition (body : Tree) (least : Nat) (most : Option Nat) (greedy : Bool)
  /-- Some groups are captured, which costs more to match. -/
  | group (captured : Bool) (changes : List FlagChange) (body : Tree)
  | alternation (branches : List Tree)
  | concatenation (parts : List Tree)

namespace ClassTree

mutual

/-- The nesting of a class counts brackets, unions and operations. -/
def nesting : ClassTree → Nat
  | .bracketed _ content => content.nesting + 1
  | .union items => nestingOfItems items + 1
  | .intersection left right => max left.nesting right.nesting + 1
  | .difference left right => max left.nesting right.nesting + 1
  | .symmetricDifference left right => max left.nesting right.nesting + 1
  | _ => 0
termination_by structural content => content

def nestingOfItems : List ClassTree → Nat
  | [] => 0
  | item :: items => max item.nesting (nestingOfItems items)
termination_by structural items => items

end

end ClassTree

namespace Tree

mutual

/-- The nesting of a pattern counts everything that holds other parts. -/
def nesting : Tree → Nat
  | .bracketed _ content => content.nesting + 1
  | .repetition body _ _ _ => body.nesting + 1
  | .group _ _ body => body.nesting + 1
  | .alternation branches => nestingOfParts branches + 1
  | .concatenation parts => nestingOfParts parts + 1
  | _ => 0
termination_by structural body => body

def nestingOfParts : List Tree → Nat
  | [] => 0
  | part :: parts => max part.nesting (nestingOfParts parts)
termination_by structural parts => parts

end

/-- A pattern may nest its parts this deep. -/
def nestingLimit : Nat := 250

/-- A single part needs no concatenation. -/
def ofParts : List Tree → Tree
  | [] => .empty
  | [part] => part
  | parts => .concatenation parts

/-- A single branch needs no alternation. -/
def ofBranches : List Tree → Tree
  | [branch] => branch
  | branches => .alternation branches

/-- The parts that a repetition can follow. -/
def isRepeatable : Tree → Bool
  | .empty | .flags _ => false
  | _ => true

end Tree

end Forms.Pattern
