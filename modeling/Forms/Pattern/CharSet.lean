/-
This file holds the sets of characters that the classes of a pattern stand for once its flags are
known.
-/

import Forms.Pattern.Tree
import Forms.Unicode.Folding
import Forms.Unicode.Query

namespace Forms.Pattern

/-- The sets of characters in patterns are tables. -/
abbrev CharSet := Unicode.Table

namespace CharSet

/-- Only the characters below this code have one byte each. -/
def byteLimit : Char := '\x80'

def staysAscii (set : CharSet) : Bool := set.spans.all fun span => span.last < byteLimit.toNat

def range (first last : Char) : CharSet := .single first.toNat last.toNat

def just (character : Char) : CharSet := range character character

def ofRanges (ranges : List (Char × Char)) : CharSet :=
  ⟨ranges.map fun (first, last) => ⟨first.toNat, last.toNat⟩⟩

def asciiDigits : CharSet := range '0' '9'

def asciiSpaces : CharSet := ofRanges [('\t', '\r'), (' ', ' ')]

def asciiWords : CharSet := ofRanges [('0', '9'), ('A', 'Z'), ('_', '_'), ('a', 'z')]

/-- The characters of a class between colons. -/
def ofAscii : AsciiClass → CharSet
  | .alnum => ofRanges [('0', '9'), ('A', 'Z'), ('a', 'z')]
  | .alpha => ofRanges [('A', 'Z'), ('a', 'z')]
  | .ascii => range '\x00' '\x7f'
  | .blank => ofRanges [('\t', '\t'), (' ', ' ')]
  | .cntrl => ofRanges [('\x00', '\x1f'), ('\x7f', '\x7f')]
  | .digit => asciiDigits
  | .graph => range '!' '~'
  | .lower => range 'a' 'z'
  | .print => range ' ' '~'
  | .punct => ofRanges [('!', '/'), (':', '@'), ('[', '\x60'), ('{', '~')]
  | .space => asciiSpaces
  | .upper => range 'A' 'Z'
  | .word => asciiWords
  | .xdigit => ofRanges [('0', '9'), ('A', 'F'), ('a', 'f')]

/-- The distance between the two cases of an ASCII letter. -/
def caseDistance : Nat := 'a'.toNat - 'A'.toNat

/-- The ASCII letters that are members in one of their cases, and all other members. -/
def asciiClosure (set : CharSet) : CharSet :=
  let uppercase := (set.intersection (range 'A' 'Z')).spans.map fun span =>
    ⟨span.first + caseDistance, span.last + caseDistance⟩
  let lowercase := (set.intersection (range 'a' 'z')).spans.map fun span =>
    ⟨span.first - caseDistance, span.last - caseDistance⟩
  (set.union ⟨uppercase⟩).union ⟨lowercase⟩

end CharSet

/-- The flags that are switched on at a place in a pattern. -/
structure Mode where
  ignoreCase : Bool
  multiLine : Bool
  dotAll : Bool
  swapGreed : Bool
  unicode : Bool
  carriageReturn : Bool

namespace Mode

def standard : Mode := ⟨false, false, false, false, true, false⟩

def apply (mode : Mode) (change : FlagChange) : Mode :=
  match change.flag with
  | .ignoreCase => { mode with ignoreCase := change.enabled }
  | .multiLine => { mode with multiLine := change.enabled }
  | .dotAll => { mode with dotAll := change.enabled }
  | .swapGreed => { mode with swapGreed := change.enabled }
  | .unicode => { mode with unicode := change.enabled }
  | .carriageReturn => { mode with carriageReturn := change.enabled }
  | .spaced => mode

def applyAll (mode : Mode) (changes : List FlagChange) : Mode := changes.foldl apply mode

/-- The cases of a set are closed when case does not count. -/
def fold (mode : Mode) (set : CharSet) : CharSet :=
  if !mode.ignoreCase then set
  else if mode.unicode then Unicode.Folding.closure set
  else set.asciiClosure

def negate (negated : Bool) (set : CharSet) : CharSet :=
  if negated then set.complement else set

/-- Without Unicode a set may only hold ASCII characters. -/
def guardAscii (mode : Mode) (set : CharSet) : Option CharSet :=
  if mode.unicode || set.staysAscii then some set else none

/-- The cases are closed before the complement is taken. -/
def close (mode : Mode) (negated : Bool) (set : CharSet) : Option CharSet :=
  mode.guardAscii (negate negated (mode.fold set))

/-- A character with a code above ASCII cannot be a byte of the text. -/
def literal? (mode : Mode) (literal : Literal) : Option Char :=
  if !mode.unicode && literal.asByte && !(literal.character < CharSet.byteLimit) then none
  else some literal.character

/-- Inside a class without Unicode every character has to be a byte. -/
def classLiteral? (mode : Mode) (literal : Literal) : Option Char :=
  if mode.unicode || literal.character < CharSet.byteLimit then some literal.character else none

def shortSet (mode : Mode) (kind : ShortClass) : CharSet :=
  match kind, mode.unicode with
  | .digit, true => Unicode.digitTable
  | .space, true => Unicode.spaceTable
  | .word, true => Unicode.wordTable
  | .digit, false => CharSet.asciiDigits
  | .space, false => CharSet.asciiSpaces
  | .word, false => CharSet.asciiWords

def short? (mode : Mode) (negated : Bool) (kind : ShortClass) : Option CharSet :=
  mode.guardAscii (negate negated (mode.shortSet kind))

/-- Classes with names need Unicode. -/
def named? (mode : Mode) (negated : Bool) (query : ClassQuery) : Option CharSet :=
  if !mode.unicode then none
  else
    let found := match query with
      | .name name => Unicode.Query.ofName? name
      | .pair name value => Unicode.Query.ofPair? name value
    found.bind (mode.close negated)

mutual

/-- The set that a class stands for. The outer brackets close it under case and negate it. -/
def classSet? (mode : Mode) : ClassTree → Option CharSet
  | .empty => some .empty
  | .literal literal => (mode.classLiteral? literal).map CharSet.just
  | .range first last => do
      let first ← mode.classLiteral? first
      let last ← mode.classLiteral? last
      some (CharSet.range first last)
  | .ascii negated kind => mode.close negated (CharSet.ofAscii kind)
  | .short negated kind => mode.short? negated kind
  | .named negated query => mode.named? negated query
  | .bracketed negated content => do
      let set ← mode.classSet? content
      mode.close negated set
  | .union items => mode.unionSet? items
  | .intersection left right => do
      let left ← mode.classSet? left
      let right ← mode.classSet? right
      some ((mode.fold left).intersection (mode.fold right))
  | .difference left right => do
      let left ← mode.classSet? left
      let right ← mode.classSet? right
      some ((mode.fold left).difference (mode.fold right))
  | .symmetricDifference left right => do
      let left ← mode.classSet? left
      let right ← mode.classSet? right
      some ((mode.fold left).symmetricDifference (mode.fold right))
termination_by structural content => content

def unionSet? (mode : Mode) : List ClassTree → Option CharSet
  | [] => some .empty
  | item :: items => do
      let set ← mode.classSet? item
      let rest ← mode.unionSet? items
      some (set.union rest)
termination_by structural items => items

end

/-- Any character, or any character that does not end a line. -/
def dot? (mode : Mode) : Option CharSet :=
  if !mode.unicode then none
  else if mode.dotAll then some .full
  else if mode.carriageReturn then
    some (CharSet.ofRanges [('\n', '\n'), ('\r', '\r')]).complement
  else some (CharSet.just '\n').complement

end Mode

end Forms.Pattern
