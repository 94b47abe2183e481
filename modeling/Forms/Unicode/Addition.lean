/-
This file holds the characters that are newer than the classes of patterns. In the names of groups
and in quoted texts they count, and for a class they are unassigned.
-/

import Forms.Unicode.Table

namespace Forms.Unicode.Addition

/-- All characters that are added. Each of them has a shape of its own or joins another one. -/
def characters : Table := .ofLines [
  "88f 1 3cc 1 7f 1 df2 f 2 c 5d5 1 ad4 1 7c37 2 2 1 1 1 1c 1 53d1 10 1bd 2 36 7 b71 1a 56b",
  "3 8 9 21 2 c64 8 248 2c 4 a 50b6 19 2 19 11e 5 1801 8 509 16 61 73 3f07 3 1bd 17 f 11",
  "17cf 1f 1 16 8 2 fd8 1 9e 4 155 9 17b 4 32 1 3 1 39 1 4 1 1c 1 4 1 10a 1 bb3f 6 1762 c",
  "5502 10ca"]

def letters : Table := .ofLines [
  "88f 1 3cc 1 7f 1 9af1 2 2 1 1 1 1c 1 614e 1a 56b 3 32 2 c64 8 248 2c 50c4 19 2 19 11e 5",
  "1801 8 509 16 61 73 58cd 1f 1 16 8 2 d03a 6 1762 c 5502 10ca"]

def numbers : Table := .ofText
  "11de0 a 520a 3"

/-- The marks that join the character before them. -/
def joiningMarks : Table := .ofText
  "1acf f 2 c f40e 2 c64 1 1 3 1 1 cb7c 1 2 1 7 2 5 1"

end Forms.Unicode.Addition
