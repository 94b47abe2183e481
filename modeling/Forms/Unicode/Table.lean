/-
This file holds sets of characters as tables of spans, with the operations on sets. The text of a
table alternates between the number of characters to skip and the number of characters to take.
-/

namespace Forms.Unicode

/-- The codes of consecutive characters. -/
structure Span where
  first : Nat
  last : Nat
deriving DecidableEq, Repr

/-- The greatest code of a character. -/
def lastCode : Nat := 0x10FFFF

/-- The code of the next character. No character has a code between the two halves. -/
def nextCode (code : Nat) : Nat := if code = 0xD7FF then 0xE000 else code + 1

/-- The code of the character before. -/
def previousCode (code : Nat) : Nat := if code = 0xE000 then 0xD7FF else code - 1

namespace Span

/-- The span between two codes, in either order. -/
def between (left right : Nat) : Span := ⟨min left right, max left right⟩

/-- The common codes of two spans. -/
def meet? (left right : Span) : Option Span :=
  if max left.first right.first ≤ min left.last right.last then
    some ⟨max left.first right.first, min left.last right.last⟩
  else none

/-- The parts of a span that lie before and after another span. -/
def without (span other : Span) : List Span :=
  if (span.meet? other).isNone then [span]
  else
    (if span.first < other.first then [⟨span.first, previousCode other.first⟩] else []) ++
      (if other.last < span.last then [⟨nextCode other.last, span.last⟩] else [])

end Span

/-- A table lists its spans in increasing order, and no two of them touch. -/
structure Table where
  spans : List Span
deriving DecidableEq, Repr

namespace Table

def empty : Table := ⟨[]⟩

def single (first last : Nat) : Table := ⟨[⟨first, last⟩]⟩

def full : Table := single 0 lastCode

def isEmpty (table : Table) : Bool := table.spans.isEmpty

/-- The value of a hexadecimal digit in lower case. -/
def digitValue (digit : Char) : Nat :=
  if digit.isDigit then digit.toNat - '0'.toNat else digit.toNat - 'a'.toNat + 10

/-- The numbers of a text that separates them by single spaces. -/
def numbers : (current : Nat) → List Char → List Nat
  | current, [] => [current]
  | current, ' ' :: rest => current :: numbers 0 rest
  | current, digit :: rest => numbers (current * 16 + digitValue digit) rest

/-- The spans after a code. -/
def spansFrom (code : Nat) : List Nat → List Span
  | skip :: take :: rest => ⟨code + skip, code + skip + take - 1⟩ :: spansFrom (code + skip + take) rest
  | _ => []

def ofText (text : String) : Table := ⟨spansFrom 0 (numbers 0 text.toList)⟩

/-- The numbers of a long text that is broken into lines. -/
def numbersOf (lines : List String) : List Nat :=
  lines.flatMap fun line => numbers 0 line.toList

def ofLines (lines : List String) : Table := ⟨spansFrom 0 (numbersOf lines)⟩

/-- Spans of one length that start at equal distances. -/
def periodic (first distance length count : Nat) : Table :=
  ⟨(List.range count).map fun index =>
    ⟨first + index * distance, first + index * distance + length - 1⟩⟩

/-- The search ends at the first span that lies beyond the code. -/
def inSpans (code : Nat) : List Span → Bool
  | [] => false
  | span :: rest => span.first ≤ code && (code ≤ span.last || inSpans code rest)

def hasCode (table : Table) (code : Nat) : Bool := inSpans code table.spans

def contains (table : Table) (character : Char) : Bool := table.hasCode character.toNat

/-- Spans in increasing order of their first codes, where spans that overlap or touch are made one. -/
def joinAfter : Span → List Span → List Span
  | span, [] => [span]
  | span, next :: rest =>
      if next.first ≤ span.last + 1 then joinAfter ⟨span.first, max span.last next.last⟩ rest
      else span :: joinAfter next rest

def joined : List Span → Table
  | [] => empty
  | first :: rest => ⟨joinAfter first rest⟩

/-- One more span comes into its place, and the others that come after it are merged in. -/
def mergeWith (span : Span) (others : List Span → List Span) : List Span → List Span
  | [] => span :: others []
  | next :: rest =>
      if span.first ≤ next.first then span :: others (next :: rest)
      else next :: mergeWith span others rest

/-- Two lists of spans in increasing order of their first codes, as one list in this order. -/
def merge : List Span → List Span → List Span
  | [], right => right
  | span :: left, right => mergeWith span (merge left) right

def union (left right : Table) : Table := joined (merge left.spans right.spans)

/-- The table of some codes in any order. -/
def ofCodes (codes : List Nat) : Table :=
  codes.foldl (fun table code => table.union (single code code)) empty

def intersection (left right : Table) : Table :=
  ⟨left.spans.flatMap fun span => right.spans.filterMap span.meet?⟩

def difference (left right : Table) : Table :=
  ⟨left.spans.flatMap fun span =>
    (right.spans.filter fun other => (span.meet? other).isSome).foldl
      (fun parts other => parts.flatMap (·.without other)) [span]⟩

def symmetricDifference (left right : Table) : Table :=
  (left.union right).difference (left.intersection right)

/-- The gaps after a code that is taken. Two spans that meet at the codes without characters leave no
gap, and then the characters beside these codes stand in for it. -/
def gapsAfter (code : Nat) : List Span → List Span
  | [] => if code < lastCode then [⟨nextCode code, lastCode⟩] else []
  | span :: rest =>
      .between (nextCode code) (previousCode span.first) :: gapsAfter span.last rest

/-- All other characters. -/
def complement (table : Table) : Table :=
  match table.spans with
  | [] => full
  | span :: rest =>
      ⟨(if 0 < span.first then [⟨0, previousCode span.first⟩] else []) ++ gapsAfter span.last rest⟩

example : (single 97 122).complement = ⟨[⟨0, 96⟩, ⟨123, lastCode⟩]⟩ := by decide +kernel
example : (single 1 3).union (single 4 9) = single 1 9 := by decide +kernel
example : (single 1 9).difference (single 4 5) = ⟨[⟨1, 3⟩, ⟨6, 9⟩]⟩ := by decide +kernel

end Table

end Forms.Unicode
