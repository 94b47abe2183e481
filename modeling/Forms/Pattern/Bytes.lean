/-
This file describes spans of characters by the bytes that stand for them. A character takes one to four
bytes, and a span splits into sequences of byte ranges. Every choice of one byte from each range of
a sequence is a character of the span.
-/

import Forms.Unicode.Table

namespace Forms.Pattern

/-- Consecutive values of one byte. -/
structure ByteRange where
  first : Nat
  last : Nat
deriving DecidableEq, Repr

namespace ByteRange

def single (byte : Nat) : ByteRange := ⟨byte, byte⟩

/-- The mark of every byte after the first one. -/
def followingMark : Nat := 0x80

/-- The sequences for the codes between two codes. The first byte carries a mark, and a fixed number of
bytes with six bits each follow it. A range of first bytes covers all that can follow. First bytes
with fewer followers stand alone. -/
def sequencesBetween (mark : Nat) : (following first last : Nat) → List (List ByteRange)
  | 0, first, last => [[⟨mark + first, mark + last⟩]]
  | following + 1, first, last =>
      let block := Nat.pow 64 (following + 1)
      let after (byte : Nat) (first last : Nat) : List (List ByteRange) :=
        (sequencesBetween followingMark following first last).map (single (mark + byte) :: ·)
      let low := first / block
      let high := last / block
      if low = high then after low (first % block) (last % block)
      else
        let cutsLow := first % block ≠ 0
        let cutsHigh := last % block ≠ block - 1
        let wholeLow := if cutsLow then low + 1 else low
        let wholeHigh := if cutsHigh then high else high + 1
        (if cutsLow then after low (first % block) (block - 1) else []) ++
          (if wholeLow < wholeHigh then
            (sequencesBetween followingMark following 0 (block - 1)).map
              (⟨mark + wholeLow, mark + wholeHigh - 1⟩ :: ·)
          else []) ++
          (if cutsHigh then after high 0 (last % block) else [])

/-- The codes with one number of bytes, with the mark of their first byte and the number of bytes after
it. No character has a code between the third and the fourth of them. -/
def lengths : List (Unicode.Span × Nat × Nat) := [
  (⟨0, 0x7F⟩, 0, 0),
  (⟨0x80, 0x7FF⟩, 0xC0, 1),
  (⟨0x800, 0xD7FF⟩, 0xE0, 2),
  (⟨0xE000, 0xFFFF⟩, 0xE0, 2),
  (⟨0x10000, 0x10FFFF⟩, 0xF0, 3)]

/-- The sequences of a span, in the order of its characters. -/
def sequencesOf (span : Unicode.Span) : List (List ByteRange) :=
  lengths.flatMap fun (codes, mark, following) =>
    match span.meet? codes with
    | some common => sequencesBetween mark following common.first common.last
    | none => []

def sequencesOfTable (table : Unicode.Table) : List (List ByteRange) :=
  table.spans.flatMap sequencesOf

example : sequencesOf ⟨0x80, 0x7FF⟩ = [[⟨0xC2, 0xDF⟩, ⟨0x80, 0xBF⟩]] := by decide +kernel
example : sequencesOf ⟨0x3B1, 0x3C9⟩ =
    [[⟨0xCE, 0xCE⟩, ⟨0xB1, 0xBF⟩], [⟨0xCF, 0xCF⟩, ⟨0x80, 0x89⟩]] := by decide +kernel

end ByteRange

/-- The bytes of a text. -/
def bytesOf (text : List Char) : List UInt8 := text.flatMap String.utf8EncodeChar

end Forms.Pattern
