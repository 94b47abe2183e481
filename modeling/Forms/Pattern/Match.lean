/-
This file decides whether a text holds a match of an expression. The matcher moves a set of places
through the text, so it takes no more steps than the expression and the text allow.
-/

import Forms.Pattern.Assembly

namespace Forms.Pattern

/-- A place in a text knows the characters next to it. -/
structure Place where
  before : Option Char
  after : Option Char

/-- The places of a text from its start to its end. -/
def placesFrom (before : Option Char) : List Char → List Place
  | [] => [⟨before, none⟩]
  | first :: rest => ⟨before, some first⟩ :: placesFrom (some first) rest

def places (text : List Char) : List Place := placesFrom none text

namespace Look

/-- The end of the text holds no word character. -/
def isWord (unicode : Bool) (character : Option Char) : Bool :=
  match character with
  | none => false
  | some character =>
      if unicode then Unicode.wordTable.contains character
      else CharSet.asciiWords.contains character

def holds (look : Look) (place : Place) : Bool :=
  match look with
  | .start => place.before.isNone
  | .finish => place.after.isNone
  | .lineStart => place.before.isNone || place.before = some '\n'
  | .lineFinish => place.after.isNone || place.after = some '\n'
  | .lineStartReturn =>
      place.before.isNone || place.before = some '\n' ||
        (place.before = some '\r' && place.after ≠ some '\n')
  | .lineFinishReturn =>
      place.after.isNone || place.after = some '\r' ||
        (place.after = some '\n' && place.before ≠ some '\r')
  | .word unicode => isWord unicode place.before != isWord unicode place.after
  | .notWord unicode => isWord unicode place.before == isWord unicode place.after
  | .wordStart unicode => !isWord unicode place.before && isWord unicode place.after
  | .wordEnd unicode => isWord unicode place.before && !isWord unicode place.after
  | .wordStartHalf unicode => !isWord unicode place.before
  | .wordEndHalf unicode => !isWord unicode place.after

end Look

/-- A set of places marks each place of a text. -/
abbrev Marks := List Bool

def Marks.join (left right : Marks) : Marks := left.zipWith (· || ·) right

/-- A marked place is left to go on from. -/
def Marks.alive (marks : Marks) : Bool := marks.any id

/-- The marks after exactly a number of rounds. Nothing comes of a set without marks. -/
def rounds (step : Marks → Marks) : (count : Nat) → Marks → Marks
  | 0, marks => marks
  | count + 1, marks => if marks.alive then rounds step count (step marks) else marks

/-- The marks after at most a number of rounds. -/
def upToRounds (step : Marks → Marks) : (count : Nat) → Marks → Marks
  | 0, marks => marks
  | count + 1, marks =>
      if marks.alive then marks.join (upToRounds step count (step marks)) else marks

/-- The marks after any number of rounds. The fuel bounds the rounds that can add a mark. -/
def anyRounds (step : Marks → Marks) : (fuel : Nat) → Marks → Marks
  | 0, marks => marks
  | fuel + 1, marks =>
      let grown := marks.join (step marks)
      if grown = marks then marks else anyRounds step fuel grown

/-- A marked place moves on over a character that is accepted. -/
def advanceOver (accepts : Char → Bool) : (text : List Char) → Marks → Marks
  | first :: rest, mark :: marks => (mark && accepts first) :: advanceOver accepts rest marks
  | _, _ => []

/-- The marks after one character of the text. -/
def oneFurther (accepts : Char → Bool) (text : List Char) (marks : Marks) : Marks :=
  false :: advanceOver accepts text marks

namespace Expression

mutual

/-- The places that a match can end at when it starts at a marked place. More rounds than the text
has places reach nothing new, so the counts of a repetition are bounded by their number. -/
def advance (text : List Char) : Expression → Marks → Marks
  | .empty, marks => marks
  | .literal expected, marks =>
      expected.foldl (fun marks character => oneFurther (· = character) text marks) marks
  | .chars set _, marks => oneFurther set.contains text marks
  | .look condition, marks =>
      marks.zipWith (fun mark place => mark && condition.holds place) (places text)
  | .group body, marks => body.advance text marks
  | .repetition body least most _, marks =>
      let bound := text.length + 1
      let start := rounds (body.advance text) (min least bound) marks
      match most with
      | none => anyRounds (body.advance text) bound start
      | some most => upToRounds (body.advance text) (min most bound - min least bound) start
  | .sequence parts, marks => advanceAll text parts marks
  | .choice branches, marks => advanceAny text branches marks
termination_by structural expression => expression

/-- The parts of a sequence come one after the other. -/
def advanceAll (text : List Char) : List Expression → Marks → Marks
  | [], marks => marks
  | part :: parts, marks => advanceAll text parts (part.advance text marks)
termination_by structural parts => parts

/-- One of the branches of a choice comes. -/
def advanceAny (text : List Char) : List Expression → Marks → Marks
  | [], marks => marks.map fun _ => false
  | branch :: branches, marks => (branch.advance text marks).join (advanceAny text branches marks)
termination_by structural branches => branches

end

/-- A match may start and end anywhere in the text. -/
def matchesIn (expression : Expression) (text : String) : Bool :=
  (expression.advance text.toList (List.replicate (text.length + 1) true)).alive

end Expression

end Forms.Pattern
