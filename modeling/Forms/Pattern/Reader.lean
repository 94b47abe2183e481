/-
This file reads the texts of patterns into trees. In spaced mode, white space and comments between
the parts of a pattern do not count.
-/

import Forms.Pattern.Tree
import Forms.Text.Blank
import Forms.Unicode.Query

namespace Forms.Pattern.Reader

/-- A comment starts with a hash sign and ends with its line. -/
def skipComments : (inComment : Bool) → List Char → List Char
  | _, [] => []
  | true, first :: rest => skipComments (first ≠ '\n') rest
  | false, first :: rest =>
      if first = '#' then skipComments true rest
      else if Text.isBlankChar first then skipComments false rest
      else first :: rest

/-- Only spaced mode skips anything. -/
def skip (spaced : Bool) (text : List Char) : List Char :=
  if spaced then skipComments false text else text

/-- The next character that counts after a hyphen. A comment sign is passed over once. -/
def peekAfter (spaced : Bool) (text : List Char) : Option Char :=
  if spaced then
    let visible := match text.dropWhile Text.isBlankChar with
      | '#' :: rest => rest.dropWhile Text.isBlankChar
      | rest => rest
    visible.head?.orElse fun _ => text.head?
  else text.head?

/-- The characters of a code between braces, and the text after the closing brace. -/
def readBraced (spaced : Bool) : (fuel : Nat) → List Char → Option (List Char × List Char)
  | 0, _ => none
  | fuel + 1, text =>
      match skip spaced text with
      | [] => none
      | '}' :: rest => some ([], rest)
      | first :: rest => (readBraced spaced fuel rest).map fun (content, rest) =>
          (first :: content, rest)

/-- The characters of one kind at the start of a text, with spaces skipped after each of them. -/
def readRun (spaced : Bool) (accepts : Char → Bool) :
    (fuel : Nat) → List Char → List Char × List Char
  | 0, text => ([], text)
  | fuel + 1, text =>
      match text with
      | [] => ([], [])
      | first :: rest =>
          if accepts first then
            let (run, rest) := readRun spaced accepts fuel (skip spaced rest)
            (first :: run, rest)
          else ([], first :: rest)

def hexValue? (character : Char) : Option Nat :=
  if character.isDigit then some (character.toNat - '0'.toNat)
  else if 'a' ≤ character ∧ character ≤ 'f' then some (character.toNat - 'a'.toNat + 10)
  else if 'A' ≤ character ∧ character ≤ 'F' then some (character.toNat - 'A'.toNat + 10)
  else none

/-- The number of hexadecimal digits. -/
def hexNumber? (digits : List Char) : Option Nat :=
  digits.foldlM (fun total digit => (hexValue? digit).map (total * 16 + ·)) 0

/-- The character with a code. Surrogates are no characters. -/
def characterOf? (code : Nat) : Option Char :=
  if code < 0xD800 ∨ (0xDFFF < code ∧ code ≤ 0x10FFFF) then some (Char.ofNat code) else none

def literal (character : Char) : Tree := .literal ⟨character, false⟩

/-- A fixed number of hexadecimal digits. -/
def readFixedHex (spaced : Bool) : (count : Nat) → List Char → Option (List Char × List Char)
  | 0, text => some ([], text)
  | count + 1, text =>
      match text with
      | [] => none
      | first :: rest =>
          (readFixedHex spaced count (skip spaced rest)).map fun (digits, rest) =>
            (first :: digits, rest)

/-- The code of a character has a fixed number of digits, or any number of digits in braces. Only the
shortest fixed form is written as a byte. -/
def readHex (spaced : Bool) (count : Nat) (text : List Char) : Option (Tree × List Char) :=
  match skip spaced text with
  | '{' :: rest => do
      let (digits, rest) ← readBraced spaced (rest.length + 1) rest
      if digits.isEmpty then none
      let character ← characterOf? (← hexNumber? digits)
      some (literal character, skip spaced rest)
  | rest => do
      let (digits, rest) ← readFixedHex spaced count rest
      let character ← characterOf? (← hexNumber? digits)
      some (.literal ⟨character, count = 2⟩, rest)

/-- The text before and after the first occurrence of a separator. -/
def splitAt? (separator : List Char) : List Char → Option (List Char × List Char)
  | [] => none
  | first :: rest =>
      if separator.isPrefixOf (first :: rest) then
        some ([], (first :: rest).drop separator.length)
      else (splitAt? separator rest).map fun (before, after) => (first :: before, after)

/-- A name and its value are separated by an exclamation mark and an equals sign, by a colon, or by an
equals sign. The exclamation mark asks for all other values. -/
def queryOf (negated : Bool) (content : List Char) : Tree :=
  match splitAt? ['!', '='] content with
  | some (name, value) => .named (!negated) (.pair name value)
  | none =>
      match (splitAt? [':'] content).orElse fun _ => splitAt? ['='] content with
      | some (name, value) => .named negated (.pair name value)
      | none => .named negated (.name content)

/-- The name of a class is one letter, or any text in braces. -/
def readNamed (spaced negated : Bool) (text : List Char) : Option (Tree × List Char) :=
  match skip spaced text with
  | [] => none
  | '{' :: rest => do
      let (content, rest) ← readBraced spaced (rest.length + 1) rest
      some (queryOf negated content, rest)
  | '\\' :: _ => none
  | letter :: rest => some (.named negated (.name [letter]), rest)

def boundaryOf? (name : List Char) : Option Anchor :=
  match String.ofList name with
  | "start" => some .wordStart
  | "end" => some .wordEnd
  | "start-half" => some .wordStartHalf
  | "end-half" => some .wordEndHalf
  | _ => none

def isBoundaryChar (character : Char) : Bool :=
  ('A' ≤ character && character ≤ 'Z') || ('a' ≤ character && character ≤ 'z') || character = '-'

/-- Braces after a word boundary hold the name of a special boundary, or the counts of a
repetition. -/
def readBoundary (spaced : Bool) (text : List Char) : Option (Tree × List Char) :=
  match text with
  | '{' :: rest =>
      match skip spaced rest with
      | [] => none
      | first :: inside =>
          if isBoundaryChar first then
            match readRun spaced isBoundaryChar (inside.length + 2) (first :: inside) with
            | (name, '}' :: rest) => (boundaryOf? name).map fun anchor => (.anchor anchor, rest)
            | _ => none
          else some (.anchor .wordBoundary, text)
  | rest => some (.anchor .wordBoundary, rest)

/-- A character that means something else without a backslash. -/
def isSpecial (character : Char) : Bool :=
  ['\\', '.', '+', '*', '?', '(', ')', '|', '[', ']', '{', '}', '^', '$', '#', '&', '-',
    '~'].contains character

/-- A symbol may have a needless backslash. Letters, digits and angle brackets may not. -/
def isEscapable (character : Char) : Bool :=
  isSpecial character ||
    (character.toNat < 128 && !character.isAlphanum && character ≠ '<' && character ≠ '>')

/-- The text starts after the backslash. -/
def readEscape (spaced : Bool) (text : List Char) : Option (Tree × List Char) :=
  match text with
  | [] => none
  | 'x' :: rest => readHex spaced 2 rest
  | 'u' :: rest => readHex spaced 4 rest
  | 'U' :: rest => readHex spaced 8 rest
  | 'p' :: rest => readNamed spaced false rest
  | 'P' :: rest => readNamed spaced true rest
  | 'd' :: rest => some (.short false .digit, rest)
  | 's' :: rest => some (.short false .space, rest)
  | 'w' :: rest => some (.short false .word, rest)
  | 'D' :: rest => some (.short true .digit, rest)
  | 'S' :: rest => some (.short true .space, rest)
  | 'W' :: rest => some (.short true .word, rest)
  | 'a' :: rest => some (literal '\x07', rest)
  | 'f' :: rest => some (literal '\x0c', rest)
  | 't' :: rest => some (literal '\t', rest)
  | 'n' :: rest => some (literal '\n', rest)
  | 'r' :: rest => some (literal '\r', rest)
  | 'v' :: rest => some (literal '\x0b', rest)
  | 'A' :: rest => some (.anchor .startText, rest)
  | 'z' :: rest => some (.anchor .endText, rest)
  | 'B' :: rest => some (.anchor .notWordBoundary, rest)
  | '<' :: rest => some (.anchor .wordStart, rest)
  | '>' :: rest => some (.anchor .wordEnd, rest)
  | 'b' :: rest => readBoundary spaced rest
  | other :: rest => if isEscapable other then some (literal other, rest) else none

/-- The class between colons inside a class. -/
def asciiClassOf? (name : List Char) : Option AsciiClass :=
  match String.ofList name with
  | "alnum" => some .alnum
  | "alpha" => some .alpha
  | "ascii" => some .ascii
  | "blank" => some .blank
  | "cntrl" => some .cntrl
  | "digit" => some .digit
  | "graph" => some .graph
  | "lower" => some .lower
  | "print" => some .print
  | "punct" => some .punct
  | "space" => some .space
  | "upper" => some .upper
  | "word" => some .word
  | "xdigit" => some .xdigit
  | _ => none

/-- The text starts after the inner bracket. A text that does not fit is an inner class instead. -/
def readAsciiClass (text : List Char) : Option (ClassTree × List Char) := do
  let (negated, rest) ← match text with
    | ':' :: '^' :: rest => some (true, rest)
    | ':' :: rest => some (false, rest)
    | _ => none
  match rest.dropWhile (· ≠ ':') with
  | ':' :: ']' :: following =>
      let kind ← asciiClassOf? (rest.takeWhile (· ≠ ':'))
      some (.ascii negated kind, following)
  | _ => none

/-- An item of a class is a character or an escape. -/
def readClassItem (spaced : Bool) (text : List Char) : Option (Tree × List Char) :=
  match text with
  | [] => none
  | '\\' :: rest => readEscape spaced rest
  | character :: rest => some (literal character, rest)

/-- Assertions have no place in a class. -/
def classItemOf? : Tree → Option ClassTree
  | .literal literal => some (.literal literal)
  | .short negated kind => some (.short negated kind)
  | .named negated query => some (.named negated query)
  | _ => none

/-- The ends of a range are characters in order. -/
def rangeOf? : Tree → Tree → Option ClassTree
  | .literal first, .literal last =>
      if first.character ≤ last.character then some (.range first last) else none
  | _, _ => none

/-- A hyphen between two items makes a range, unless the class ends there or a second hyphen
follows. -/
def readClassRange (spaced : Bool) (text : List Char) : Option (ClassTree × List Char) := do
  let (first, rest) ← readClassItem spaced text
  match skip spaced rest with
  | [] => none
  | '-' :: rest =>
      let next := peekAfter spaced rest
      if next = some ']' ∨ next = some '-' then
        (classItemOf? first).map fun item => (item, '-' :: rest)
      else
        let (last, rest) ← readClassItem spaced (skip spaced rest)
        (rangeOf? first last).map fun item => (item, rest)
  | rest => (classItemOf? first).map fun item => (item, rest)

/-- The operations between the halves of a class. -/
inductive ClassOperation where
  | intersection
  | difference
  | symmetricDifference

/-- The left half of an operation waits for its right half. -/
def combine (pending : Option (ClassOperation × ClassTree)) (right : ClassTree) : ClassTree :=
  match pending with
  | none => right
  | some (.intersection, left) => .intersection left right
  | some (.difference, left) => .difference left right
  | some (.symmetricDifference, left) => .symmetricDifference left right

/-- A single item needs no union. The items are listed backwards. -/
def unionOf (items : List ClassTree) : ClassTree :=
  match items with
  | [] => .empty
  | [item] => item
  | items => .union items.reverse

/-- Hyphens at the start of a class are characters. -/
def readHyphens (spaced : Bool) : (fuel : Nat) → List Char → List ClassTree × List Char
  | 0, text => ([], text)
  | fuel + 1, text =>
      match text with
      | '-' :: rest =>
          let (items, rest) := readHyphens spaced fuel (skip spaced rest)
          (items ++ [.literal ⟨'-', false⟩], rest)
      | rest => ([], rest)

mutual

/-- The text starts after the opening bracket. A closing bracket that comes first is a character. -/
def readClass (spaced : Bool) (fuel : Nat) (text : List Char) : Option (Bool × ClassTree × List Char) :=
  match fuel with
  | 0 => none
  | fuel + 1 => do
      let (negated, rest) := match skip spaced text with
        | '^' :: rest => (true, skip spaced rest)
        | rest => (false, rest)
      let (items, rest) := readHyphens spaced (rest.length + 1) rest
      let (items, rest) := match items, rest with
        | [], ']' :: rest => ([ClassTree.literal ⟨']', false⟩], skip spaced rest)
        | items, rest => (items, rest)
      let (content, rest) ← readClassItems spaced fuel none items rest
      some (negated, content, rest)

/-- The items of a class are listed backwards until the closing bracket. -/
def readClassItems (spaced : Bool) (fuel : Nat) (pending : Option (ClassOperation × ClassTree))
    (items : List ClassTree) (text : List Char) : Option (ClassTree × List Char) :=
  match fuel with
  | 0 => none
  | fuel + 1 =>
      match skip spaced text with
      | [] => none
      | ']' :: rest => some (combine pending (unionOf items), rest)
      | '&' :: '&' :: rest =>
          readClassItems spaced fuel (some (.intersection, combine pending (unionOf items))) [] rest
      | '-' :: '-' :: rest =>
          readClassItems spaced fuel (some (.difference, combine pending (unionOf items))) [] rest
      | '~' :: '~' :: rest =>
          readClassItems spaced fuel (some (.symmetricDifference, combine pending (unionOf items)))
            [] rest
      | '[' :: rest =>
          match readAsciiClass rest with
          | some (item, rest) => readClassItems spaced fuel pending (item :: items) rest
          | none => do
              let (negated, content, rest) ← readClass spaced fuel rest
              readClassItems spaced fuel pending (.bracketed negated content :: items) rest
      | rest => do
          let (item, rest) ← readClassRange spaced rest
          readClassItems spaced fuel pending (item :: items) rest

end

def flagOf? (letter : Char) : Option Flag :=
  match letter with
  | 'i' => some .ignoreCase
  | 'm' => some .multiLine
  | 's' => some .dotAll
  | 'U' => some .swapGreed
  | 'u' => some .unicode
  | 'x' => some .spaced
  | 'R' => some .carriageReturn
  | _ => none

/-- The flags up to a colon or a closing parenthesis. A flag may stand once, and a hyphen switches
the flags after it off. The result says whether a colon follows. -/
def readFlags (negated afterHyphen : Bool) (seen : List Flag) :
    List Char → Option (List FlagChange × Bool × List Char)
  | [] => none
  | first :: rest =>
      if first = ':' ∨ first = ')' then
        if afterHyphen then none else some ([], first = ':', rest)
      else if first = '-' then
        if negated then none else readFlags true true seen rest
      else do
        let flag ← flagOf? first
        if seen.contains flag then none
        let (changes, colon, rest) ← readFlags negated false (flag :: seen) rest
        some (⟨flag, !negated⟩ :: changes, colon, rest)

/-- Flags can change whether spaces count. -/
def spacedAfter (spaced : Bool) (changes : List FlagChange) : Bool :=
  match changes.find? fun change => change.flag == .spaced with
  | some change => change.enabled
  | none => spaced

def isNameStart (character : Char) : Bool := character = '_' || Unicode.letterTable.contains character

def isNameChar (character : Char) : Bool :=
  character = '_' || character = '.' || character = '[' || character = ']' ||
    Unicode.letterOrNumberTable.contains character

/-- The name of a group ends with an angle bracket. Two groups may not share a name. -/
def readGroupName (names : List (List Char)) (text : List Char) :
    Option (List (List Char) × List Char) :=
  let name := text.takeWhile (· ≠ '>')
  match name, text.dropWhile (· ≠ '>') with
  | first :: others, _ :: rest =>
      if isNameStart first && others.all isNameChar && !names.contains name then
        some (name :: names, rest)
      else none
  | _, _ => none

/-- The start of a group says whether flags alone or a body with flags follow. -/
inductive GroupHead where
  | flags (changes : List FlagChange)
  | body (captured : Bool) (changes : List FlagChange) (names : List (List Char))

/-- The text starts after the opening parenthesis. -/
def readGroupHead (names : List (List Char)) (text : List Char) : Option (GroupHead × List Char) :=
  match text with
  | '?' :: 'P' :: '<' :: rest | '?' :: '<' :: rest => do
      let (names, rest) ← readGroupName names rest
      some (.body true [] names, rest)
  | '?' :: rest => do
      let (changes, colon, rest) ← readFlags false false [] rest
      if colon then some (.body false changes names, rest)
      else if changes.isEmpty then none
      else some (.flags changes, rest)
  | rest => some (.body true [] names, rest)

/-- The greatest count of a repetition. -/
def countLimit : Nat := Nat.pow 2 32 - 1

/-- A count may have white space around it. -/
def readCount (spaced : Bool) (text : List Char) : Option (Option Nat × List Char) :=
  let text := text.dropWhile Text.isBlankChar
  let (digits, rest) := readRun spaced Char.isDigit (text.length + 1) text
  let (_, rest) := readRun spaced Text.isBlankChar (rest.length + 1) rest
  let count := digits.foldl (fun total digit => total * 10 + (digit.toNat - '0'.toNat)) 0
  if digits.isEmpty then some (none, rest)
  else if count ≤ countLimit then some (some count, rest)
  else none

/-- The text starts after the opening brace. -/
def readCounts (spaced : Bool) (text : List Char) : Option (Nat × Option Nat × List Char) := do
  let (first, rest) ← readCount spaced (skip spaced text)
  let least ← first
  match rest with
  | '}' :: rest => some (least, some least, rest)
  | ',' :: rest =>
      match skip spaced rest with
      | '}' :: rest => some (least, none, rest)
      | inside =>
          let (second, rest) ← readCount spaced inside
          let most ← second
          match rest with
          | '}' :: rest => if least ≤ most then some (least, some most, rest) else none
          | _ => none
  | _ => none

/-- The last part becomes the body of a repetition, which is greedy if no question mark follows. The
parts are listed backwards. -/
def repeatLast? (parts : List Tree) (least : Nat) (most : Option Nat) (text : List Char) :
    Option (List Tree × List Char) :=
  match parts with
  | [] => none
  | body :: others =>
      if !body.isRepeatable then none
      else match text with
        | '?' :: rest => some (.repetition body least most false :: others, rest)
        | rest => some (.repetition body least most true :: others, rest)

/-- The tree of all branches. The branches and the parts of the last branch are listed backwards. -/
def treeOf (branches parts : List Tree) : Tree :=
  .ofBranches (.ofParts parts.reverse :: branches).reverse

/-- This function reads the branches of a group, or of the whole pattern, to their end. -/
def readBranches (inGroup : Bool) (fuel : Nat) (spaced : Bool) (names : List (List Char))
    (branches parts : List Tree) (text : List Char) :
    Option (Tree × List (List Char) × List Char) :=
  match fuel with
  | 0 => none
  | fuel + 1 =>
      let resume (parts : List Tree) (rest : List Char) :=
        readBranches inGroup fuel spaced names branches parts rest
      match skip spaced text with
      | [] => if inGroup then none else some (treeOf branches parts, names, [])
      | ')' :: rest => if inGroup then some (treeOf branches parts, names, rest) else none
      | '|' :: rest =>
          readBranches inGroup fuel spaced names (.ofParts parts.reverse :: branches) [] rest
      | '(' :: rest => do
          let (head, rest) ← readGroupHead names (skip spaced rest)
          match head with
          | .flags changes =>
              readBranches inGroup fuel (spacedAfter spaced changes) names branches
                (.flags changes :: parts) rest
          | .body captured changes names =>
              let (body, names, rest) ←
                readBranches true fuel (spacedAfter spaced changes) names [] [] rest
              readBranches inGroup fuel spaced names branches (.group captured changes body :: parts)
                rest
      | '[' :: rest => do
          let (negated, content, rest) ← readClass spaced (2 * rest.length + 2) rest
          resume (.bracketed negated content :: parts) rest
      | '?' :: rest => do
          let (parts, rest) ← repeatLast? parts 0 (some 1) rest
          resume parts rest
      | '*' :: rest => do
          let (parts, rest) ← repeatLast? parts 0 none rest
          resume parts rest
      | '+' :: rest => do
          let (parts, rest) ← repeatLast? parts 1 none rest
          resume parts rest
      | '{' :: rest => do
          let (least, most, rest) ← readCounts spaced rest
          let (parts, rest) ← repeatLast? parts least most (skip spaced rest)
          resume parts rest
      | '.' :: rest => resume (.dot :: parts) rest
      | '^' :: rest => resume (.anchor .startLine :: parts) rest
      | '$' :: rest => resume (.anchor .endLine :: parts) rest
      | '\\' :: rest => do
          let (part, rest) ← readEscape spaced rest
          resume (part :: parts) rest
      | character :: rest => resume (literal character :: parts) rest

end Reader

/-- The tree of a text, if the text is a pattern. Deeper nesting than the limit is refused. -/
def Tree.ofText? (text : String) : Option Tree := do
  let (tree, _, _) ← Reader.readBranches false (text.length + 1) false [] [] [] text.toList
  if tree.nesting ≤ nestingLimit then some tree else none

end Forms.Pattern
