/-
This file holds white space. A text of white space only counts as no text at all.
-/

namespace Forms.Text

/-- These are the characters with the property White_Space. -/
def isBlankChar (character : Char) : Bool :=
  let code := character.toNat
  (9 ≤ code && code ≤ 13) || code = 32 || code = 0x85 || code = 0xA0 || code = 0x1680 ||
    (0x2000 ≤ code && code ≤ 0x200A) || code = 0x2028 || code = 0x2029 || code = 0x202F ||
    code = 0x205F || code = 0x3000

/-- A blank text has no character but white space. -/
def isBlank (text : List Char) : Bool := text.all isBlankChar

def dropBlank (text : List Char) : List Char := text.dropWhile isBlankChar

/-- This function drops white space at both ends. -/
def trim (text : List Char) : List Char := (dropBlank (dropBlank text).reverse).reverse

end Forms.Text
