/-
This file quotes texts for messages. A quoted text shows every character of the text, and characters
without a shape of their own are shown by their codes.
-/

import Forms.Unicode.Addition
import Forms.Unicode.Property

namespace Forms.Text

/-- Marks that join the character before them. -/
def joiningMarkTable : Unicode.Table :=
  (Unicode.Property.graphemeExtend.table.intersection
    (Unicode.Category.unionOf [.nonspacingMark, .spacingMark, .enclosingMark])).union
      Unicode.Addition.joiningMarks

/-- Characters that no one can see, and codes that stand for no character. -/
def invisibleTable : Unicode.Table :=
  (Unicode.Category.unionOf [
    .control, .format, .privateUse, .unassigned, .lineSeparator, .paragraphSeparator,
    .spaceSeparator]).union Unicode.Property.defaultIgnorableCodePoint.table

/-- A character is shown by its code when no one can see it, or when it joins the character before
it. -/
def shapelessTable : Unicode.Table :=
  (invisibleTable.difference Unicode.Addition.characters).union joiningMarkTable

/-- The escape of one character. The space has a shape here. -/
def quotedChar (character : Char) : List Char :=
  match character with
  | '\x00' => ['\\', '0']
  | '\t' => ['\\', 't']
  | '\r' => ['\\', 'r']
  | '\n' => ['\\', 'n']
  | '\\' => ['\\', '\\']
  | '"' => ['\\', '"']
  | other =>
      if ' ' ≤ other ∧ other ≤ '~' then [other]
      else if shapelessTable.contains other then
        ['\\', 'u', '{'] ++ Nat.toDigits 16 other.toNat ++ ['}']
      else [other]

/-- The text between double quotes. -/
def quoted (text : String) : String :=
  String.ofList ('"' :: (text.toList.flatMap quotedChar ++ ['"']))

end Forms.Text
