/-
This file holds the kinds of characters that a text is cut by, one family for user-perceived
characters, one for words and one for sentences. Each kind is described like a property.
-/

import Forms.Unicode.Property

namespace Forms.Unicode

namespace GraphemeBreak

def carriageReturn : Property where
  names := ["cr"]
  added := .ofText
    "d 1"

def control : Property where
  names := ["control", "cn"]
  categories := [.control]
  added := .ofLines [
    "ad 1 56e 1 11f1 1 7fc 1 2 2 18 7 31 10 de8f 1 f0 c 3434 10 8860 4 14cf 8 c2e85 20 60 80",
    "f0 e10"]
  removed := .ofText
    "a 1 2 1"

def extending : Property where
  names := ["extend", "ex"]
  categories := [.nonspacingMark, .enclosingMark]
  added := .ofLines [
    "9be 1 18 1 166 1 18 1 66 1 18 1 e8 1 1 1 4 2 1 2 9 2 67 1 18 1 77 1 f 1 935 1 1e 1 400",
    "1 5 1 1 1 5 2 65 1 47 2 418 1 1021 2 7923 1 6c 1 55dd 2 1220 1 74 1 108 1 e 1 9 1 60 1",
    "9 1 2 1 1 3 5 1 e0 1 c 1 f1 1 106 1 279 1 c 1 603 1 50ae 2 6173 2 6 6 2288 5 c0c20 60"]

def leadingConsonant : Property where
  names := ["l"]
  added := .ofText
    "1100 60 9800 1d"

def lineFeed : Property where
  names := ["lf"]
  added := .ofText
    "a 1"

/-- A syllable block starts with the syllable that has no final consonant. -/
def openSyllable : Property where
  names := ["lv"]
  added := .periodic 0xAC00 28 1 399

/-- A syllable block goes on with the syllables that have a final consonant. -/
def closedSyllable : Property where
  names := ["lvt"]
  added := .periodic 0xAC01 28 27 399

def prepended : Property where
  names := ["prepend", "pp"]
  added := .ofText
    "600 6 d7 1 31 1 180 2 50 1 46b 1 1036e 1 f 1 f4 2 20d 1 56d 1 1 1 f8 1 49 6 2bc 1 1bb 1"

def regionalIndicator : Property where
  names := ["regionalindicator", "ri"]
  added := .ofText
    "1f1e6 1a"

def spacingMark : Property where
  names := ["spacingmark", "sm"]
  categories := [.spacingMark]
  added := .ofText
    "e33 1 7f 1"
  removed := .ofLines [
    "9be 1 18 1 166 1 18 1 66 1 18 1 e8 1 1 1 4 2 1 2 9 2 67 1 18 1 77 1 f 1 24b 2 b 1 29 3",
    "2 7 15 1 3 6 2 1 a 3 678 1 1e 1 32c 1 1 2 d0 1 5 1 1 1 5 2 65 1 47 2 143a 2 7923 1 6c 1",
    "ba 1 1 1 6742 1 74 1 108 1 e 1 9 1 60 1 9 1 2 1 1 3 5 1 e0 1 c 1 f1 1 106 1 69 2 20e 1",
    "c 1 603 1 50ae 2 6173 2 6 6"]

def trailingConsonant : Property where
  names := ["t"]
  added := .ofText
    "11a8 58 c5cb 31"

def vowel : Property where
  names := ["v"]
  added := .ofText
    "1160 48 c608 17 959c 1 3 4"

def joiner : Property where
  names := ["zwj"]
  added := .ofText
    "200d 1"

/-- The kinds of characters that user-perceived characters are cut by. -/
def all : List Property := [
  carriageReturn, control, extending, leadingConsonant, lineFeed, openSyllable, closedSyllable,
  prepended, regionalIndicator, spacingMark, trailingConsonant, vowel, joiner]

end GraphemeBreak

namespace WordBreak

def letter : Property where
  names := ["aletter", "le"]
  categories := [
    .uppercaseLetter, .lowercaseLetter, .titlecaseLetter, .modifierLetter, .otherLetter,
    .letterNumber]
  added := .ofLines [
    "b8 1 209 4 c 6 6 2 5 7 1 1 1 11 25a 3 1 1 2b 1 68 1 11b 1 1da6 34 821e f 9 2 67 2 3d0 1",
    "145d4 1a 6 1a 6 1a"]
  removed := .ofLines [
    "5d0 1b 4 4 80e 30 1 2 c 7 3a 2 1 1 1 5 1 18 1 1 1 a 1 2 9 1 2 5 1 1 15 4 120 2b 14 1 10",
    "6 4 4 3 1 3 2 7 3 4 d c 1 6f1 34 23 1 4 1 173 1e 2 5 b 2c 4 1a 56 35 52 1 155e 2 19 9 7",
    "5 2 3 6 56 6 3 1 5a 1 4 f0 10 200 19c0 40 5200 9e0 5 1 a a 5 61 17 3 1 3 32 1 1 3 2 2 5",
    "2 1 1 1 18 3 4e22 16e 2 6a 43 1 1 a 1 d 1 5 1 1 1 2 1 2 1 a 416 3a 1760 1b 25 7 58b9",
    "17f8 8 4d6 29 a 22e7 4 1 7 1 2 1 123 f 1 1d 3 2 1 e 4 8 18c 4d04 a6e0 20 103a 6 de 2",
    "1682 e 1d31 f 26e 9a2 21e 5e2 134b 5 1060"]

def carriageReturn : Property where
  names := ["cr"]
  added := .ofText
    "d 1"

def doubleQuote : Property where
  names := ["doublequote", "dq"]
  added := .ofText
    "22 1"

def extending : Property where
  names := ["extend"]
  categories := [.nonspacingMark, .spacingMark, .enclosingMark]
  added := .ofText
    "200c 1 df91 2 f45b 5 c0c20 60"

def connecting : Property where
  names := ["extendnumlet", "ex"]
  categories := [.connectorPunctuation]
  added := .ofText
    "202f 1"

def format : Property where
  names := ["format", "fo"]
  categories := [.format]
  removed := .ofText
    "600 6 d7 1 31 1 180 2 50 1 1728 3 f0af 1 f 1 cef52 60"

def hebrewLetter : Property where
  names := ["hebrewletter", "hl"]
  added := .ofText
    "5d0 1b 4 4 f52a 1 1 a 1 d 1 5 1 1 1 2 1 2 1 a"

def katakana : Property where
  names := ["katakana", "ka"]
  added := .ofText
    "3031 5 65 2 3 5b 1 4 f0 10 d0 2f 1 58 cc0e 38 b052 4 1 7 1 2 1 1 11f 3 32 1 e 4"

def lineFeed : Property where
  names := ["lf"]
  added := .ofText
    "a 1"

def betweenLetters : Property where
  names := ["midletter", "ml"]
  added := .ofText
    "3a 1 7c 1 2cf 1 1d7 1 94 1 1a32 1 ddeb 1 41 1 c4 1"

def betweenNumbers : Property where
  names := ["midnum", "mn"]
  added := .ofText
    "2c 1 e 1 342 1 20a 1 82 2 5e 1 18b 1 184b 1 de0b 1 3 1 b7 1 e 1"

def betweenBoth : Property where
  names := ["midnumlet", "mb"]
  added := .ofText
    "2e 1 1fe9 2 a 1 de2d 1 b4 1 6 1"

def newline : Property where
  names := ["newline", "nl"]
  added := .ofText
    "b 2 78 1 1fa2 2"

def numeric : Property where
  names := ["numeric", "nu"]
  categories := [.decimalNumber]
  added := .ofText
    "600 6 65 1 71 1 1b2 2 50 1 10f7 1 f6e2 1 f 1"

def regionalIndicator : Property where
  names := ["regionalindicator", "ri"]
  added := .ofText
    "1f1e6 1a"

def singleQuote : Property where
  names := ["singlequote", "sq"]
  added := .ofText
    "27 1"

def space : Property where
  names := ["wsegspace"]
  categories := [.spaceSeparator]
  removed := .ofText
    "a0 1 1f66 1 27 1"

def joiner : Property where
  names := ["zwj"]
  added := .ofText
    "200d 1"

/-- The kinds of characters that words are cut by. -/
def all : List Property := [
  letter, carriageReturn, doubleQuote, extending, connecting, format, hebrewLetter, katakana,
  lineFeed, betweenLetters, betweenNumbers, betweenBoth, newline, numeric, regionalIndicator,
  singleQuote, space, joiner]

end WordBreak

namespace SentenceBreak

def possibleTerminator : Property where
  names := ["aterm", "at"]
  added := .ofText
    "2e 1 1ff5 1 de2d 1 bb 1"

def carriageReturn : Property where
  names := ["cr"]
  added := .ofText
    "d 1"

def closing : Property where
  names := ["close", "cl"]
  added := .ofLines [
    "22 1 4 3 31 1 1 1 1d 1 1 1 2d 1 f 1 e7e 4 75d 2 97b 8 19 2 a 2 36 2 e 2 279 4 1d 2 430",
    "6 7 e 4f 2 1f a 193 16 3f 4 20 2 402 e e 2 2 a 18 1 12 8 1ab a 2 8 1 3 cd1e 2 d7 2 1c",
    "10 2 2 10 6 a9 2 31 1 1 1 1d 1 1 1 1 2 1 2 f712 3"]

def extending : Property where
  names := ["extend", "ex"]
  categories := [.nonspacingMark, .spacingMark, .enclosingMark]
  added := .ofText
    "200c 2 df90 2 d0080 60"

def format : Property where
  names := ["format", "fo"]
  categories := [.format]
  removed := .ofText
    "600 6 d7 1 1b2 2 50 1 1729 2 f0af 1 f 1 cef52 60"

def lineFeed : Property where
  names := ["lf"]
  added := .ofText
    "a 1"

def lowercase : Property where
  names := ["lower", "lo"]
  categories := [.lowercaseLetter]
  added := .ofLines [
    "aa 1 f 1 1f5 9 7 2 1e 5 95 1 d81 1 c2f 3f d 1 22 25 2b1 1 d 1 10 d d3 10 350 1a 792 2",
    "7a1e 2 d2 1 81 3 3 2 362 4 9 1 5c16 1 2 3 1 2a 1 9 d875 3e"]
  removed := .ofText
    "10d0 2b 2 3"

def numeric : Property where
  names := ["numeric", "nu"]
  categories := [.decimalNumber]
  added := .ofText
    "600 6 65 2 70 1 1b2 2 50 1 10f7 1 f6e2 1 f 1"

def otherLetter : Property where
  names := ["oletter", "le"]
  categories := [.modifierLetter, .otherLetter, .letterNumber]
  added := .ofText
    "5f3 1 adc 2b 2 3 b90 2b 2 3"
  removed := .ofLines [
    "aa 1 f 1 1f5 9 7 2 1e 5 95 1 d81 1 c2f 3f d 1 22 25 2b1 1 d 1 10 d c3 20 afc 2 7a1e 2",
    "d2 1 81 3 3 2 362 4 9 1 5434 2 7e0 1 2 3 1 2a 1 9 d875 3e"]

def continuing : Property where
  names := ["scontinue", "sc"]
  added := .ofLines [
    "2c 2 c 2 342 1 1de 1 ae 2 1ea 1 1009 1 5 1 80a 2 fec 1 ce0e 2 1 2 1c 2 1d 2 2 2 2 1 a 1",
    "a8 2 c 2 48 1"]

def terminator : Property where
  names := ["sterm", "st"]
  added := .ofLines [
    "21 1 1d 1 549 1 93 3 b4 1 2b 3 f6 1 3d 1 1 1 3 2 125 2 6e4 2 316 1 4 2 305 1 c6 2 9d 2",
    "2d 1 5 1 13a 2 162 4 a2 2 a 2 2 2 1d 3 bb 2 41 2 3bc 2 9 3 caf 3 132 1 d 1 16 2 1ad 1",
    "74fc 1 10e 2 e3 1 3 1 17e 2 56 2 5f 1 98 2 93 3 90 2 f9 1 5226 1 2 2 3f 2 a9 1 1d 1 41",
    "1 af4 2 4fd 5 2c 4 bd 2 75 4 7f 3 81 2 6 1 10 2 58 2 1 2 6c 1 12a 2 75 2 175 2 5 f 69 2",
    "f9 3 205 1 1 1 fb 2 57 2 1a4 2 2b4 2 4a 2 4b29 2 85 1 41 2 b 1 229 2 128 1 4e06 1 1de8",
    "1"]

def separator : Property where
  names := ["sep", "se"]
  added := .ofText
    "85 1 1fa2 2"

def space : Property where
  names := ["sp"]
  categories := [.spaceSeparator]
  added := .ofText
    "9 1 1 2"

def uppercase : Property where
  names := ["upper", "up"]
  categories := [.uppercaseLetter, .titlecaseLetter]
  added := .ofText
    "2160 10 346 1a 1cc60 1a 6 1a 6 1a"
  removed := .ofText
    "1c90 2b 2 3"

/-- The kinds of characters that sentences are cut by. -/
def all : List Property := [
  possibleTerminator, carriageReturn, closing, extending, format, lineFeed, lowercase, numeric,
  otherLetter, continuing, terminator, separator, space, uppercase]

end SentenceBreak

end Forms.Unicode
