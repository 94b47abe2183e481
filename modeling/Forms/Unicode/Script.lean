/-
This file holds the scripts of characters. A script lists its own characters. Its extended form also
has the characters that it shares with other scripts.
-/

import Forms.Unicode.Table

namespace Forms.Unicode

/-- The names of a script are in lower case and without separators. -/
structure Script where
  names : List String
  own : Table
  shared : Table := .empty
  unshared : Table := .empty

namespace Script

/-- The extended form of a script gives away the characters that belong to other scripts. -/
def extended (script : Script) : Table :=
  (script.own.union script.shared).difference script.unshared

def adlam : Script where
  names := ["adlam", "adlm"]
  own := .ofText
    "1e900 4c 4 a 4 2"
  shared := .ofText
    "61f 1 20 1 1a0e 1 df1 1"

def caucasianAlbanian : Script where
  names := ["caucasianalbanian", "aghb"]
  own := .ofText
    "10530 34 b 1"
  shared := .ofText
    "304 1 2c 1 2c 1"

def ahom : Script where
  names := ["ahom"]
  own := .ofText
    "11700 1b 2 f 4 17"

def arabic : Script where
  names := ["arabic", "arab"]
  own := .ofLines [
    "600 5 1 6 1 e 1 3 1 20 1 a b 1a 1 6c 1 22 50 30 f0 1f 1 2 5 4b 1 1d f250 73 10 16b 2 50",
    "2 36 7 1 20 10 70 5 1 87 f63 1f 43 3 37 4 df00 4 1 1b 1 2 1 1 2 1 1 a 1 4 1 1 1 1 6 1 4",
    "1 1 1 1 1 1 3 1 2 1 1 2 1 1 1 1 1 1 1 1 1 1 2 1 1 2 4 1 7 1 4 1 4 1 1 1 a 1 11 5 3 1 5",
    "1 11 34 2"]
  shared := .ofText
    "60c 1 e 1 3 1 20 1 a b 1a 1 19de 1 df1 1 cefc 2 5a0 1c"

def imperialAramaic : Script where
  names := ["imperialaramaic", "armi"]
  own := .ofText
    "10840 16 1 9"

def armenian : Script where
  names := ["armenian", "armn"]
  own := .ofText
    "531 26 2 32 2 3 f583 5"
  shared := .ofText
    "308 1"

def avestan : Script where
  names := ["avestan", "avst"]
  own := .ofText
    "10b00 36 3 7"
  shared := .ofText
    "b7 1 2d78 2"

def balinese : Script where
  names := ["balinese", "bali"]
  own := .ofText
    "1b00 4d 1 32"

def bamum : Script where
  names := ["bamum", "bamu"]
  own := .ofText
    "a6a0 58 c108 239"

def bassaVah : Script where
  names := ["bassavah", "bass"]
  own := .ofText
    "16ad0 1e 2 6"

def batak : Script where
  names := ["batak", "batk"]
  own := .ofText
    "1bc0 34 8 4"

def bengali : Script where
  names := ["bengali", "beng"]
  own := .ofText
    "980 4 1 8 2 2 2 16 1 7 1 1 3 4 2 9 2 2 2 4 8 1 4 2 1 5 2 19"
  shared := .ofText
    "2bc 1 694 2 11 2 136a 1 1 1 2 2 1 1 8 1 8 1 2 1 4 1 2 3 8bf9 1"

def bhaiksuki : Script where
  names := ["bhaiksuki", "bhks"]
  own := .ofText
    "11c00 9 1 2d 1 e a 1d"

def bopomofo : Script where
  names := ["bopomofo", "bopo"]
  own := .ofText
    "2ea 2 2e19 2b 70 20"
  shared := .ofText
    "2c7 1 1 3 d 1 2d27 3 4 a 1 d a 4 2 1 6 1 c3 1 cd49 2 11a 5"

def brahmi : Script where
  names := ["brahmi", "brah"]
  own := .ofText
    "11000 4e 4 24 9 1"

def braille : Script where
  names := ["braille", "brai"]
  own := .ofText
    "2800 100"

def buginese : Script where
  names := ["buginese", "bugi"]
  own := .ofText
    "1a00 1c 2 2"
  shared := .ofText
    "a9cf 1"

def buhid : Script where
  names := ["buhid", "buhd"]
  own := .ofText
    "1740 14"
  shared := .ofText
    "1735 2"

def chakma : Script where
  names := ["chakma", "cakm"]
  own := .ofText
    "11100 35 1 12"
  shared := .ofText
    "9e6 a 650 a"

def canadianAboriginal : Script where
  names := ["canadianaboriginal", "cans"]
  own := .ofText
    "1400 280 230 46 101ba 10"

def carian : Script where
  names := ["carian", "cari"]
  own := .ofText
    "102a0 31"
  shared := .ofText
    "b7 1 1fa2 1 2 1 dd3 1"

def cham : Script where
  names := ["cham"]
  own := .ofText
    "aa00 37 9 e 2 a 2 4"

def cherokee : Script where
  names := ["cherokee", "cher"]
  own := .ofText
    "13a0 56 2 6 9772 50"
  shared := .ofText
    "300 3 1 1 6 2 16 2 b 2"

def chorasmian : Script where
  names := ["chorasmian", "chrs"]
  own := .ofText
    "10fb0 1c"

def coptic : Script where
  names := ["coptic", "copt", "qaac"]
  own := .ofText
    "3e2 e 2890 74 5 7"
  shared := .ofText
    "b7 1 248 1 3 2 1 1 6c 2 2aa1 1 d4c8 1c"

def cyproMinoan : Script where
  names := ["cyprominoan", "cpmn"]
  own := .ofText
    "12f90 63"
  shared := .ofText
    "10100 2"

def cypriot : Script where
  names := ["cypriot", "cprt"]
  own := .ofText
    "10800 6 2 1 1 2c 1 2 3 1 2 1"
  shared := .ofText
    "10100 3 4 2d 3 9"

def cyrillic : Script where
  names := ["cyrillic", "cyrl"]
  own := .ofText
    "400 85 2 a9 1750 b a0 1 4c 1 1067 20 7840 60 578e 2 e200 3e 21 1"
  shared := .ofText
    "2bc 1 43 3 1 1 1 1 1 1 2 1 5 1 173 2 1971 1 104a 1"

def devanagari : Script where
  names := ["devanagari", "deva"]
  own := .ofText
    "900 51 4 f 2 1a 9f60 20 7200 a"
  shared := .ofText
    "2bc 1 694 2 11 2 136a 27 1 2 3f6 1 873f a"

def divesAkuru : Script where
  names := ["divesakuru", "diak"]
  own := .ofText
    "11900 7 2 1 2 8 1 2 1 1e 1 2 2 c 9 a"

def dogra : Script where
  names := ["dogra", "dogr"]
  own := .ofText
    "11800 3c"
  shared := .ofText
    "964 c 9ec0 a"

def deseret : Script where
  names := ["deseret", "dsrt"]
  own := .ofText
    "10400 50"

def duployan : Script where
  names := ["duployan", "dupl"]
  own := .ofText
    "1bc00 6b 5 d 3 9 7 a 2 4"
  shared := .ofText
    "b7 1 24f 2 1 1 18 2 2b17 1 18e63 4"

def egyptianHieroglyphs : Script where
  names := ["egyptianhieroglyphs", "egyp"]
  own := .ofText
    "13000 456 a f9b"

def elbasan : Script where
  names := ["elbasan", "elba"]
  own := .ofText
    "10500 28"
  shared := .ofText
    "b7 1 24d 1"

def elymaic : Script where
  names := ["elymaic", "elym"]
  own := .ofText
    "10fe0 17"

def ethiopic : Script where
  names := ["ethiopic", "ethi"]
  own := .ofLines [
    "1200 49 1 4 2 7 1 1 1 4 2 29 1 4 2 21 1 4 2 7 1 1 1 4 2 f 1 39 1 4 2 43 2 20 3 1a 19e6",
    "17 9 7 1 7 1 7 1 7 1 7 1 7 1 7 1 7 7d22 6 2 6 2 6 9 7 1 7 13cb1 7 1 4 1 2 1 f"]
  shared := .ofText
    "30e 1"

def georgian : Script where
  names := ["georgian", "geor"]
  own := .ofText
    "10a0 26 1 1 5 1 2 2b 1 4 b90 2b 2 3 1040 26 1 1 5 1"
  shared := .ofText
    "b7 1 4d1 1 b71 1 f5e 1 dd6 1"

def glagolitic : Script where
  names := ["glagolitic", "glag"]
  own := .ofText
    "2c00 60 1b3a0 7 1 11 2 7 1 2 1 5"
  shared := .ofText
    "b7 1 24b 1 1 1 17e 1 2 1 101 1 b71 1 f5e 1 de8 1 782b 1"

def gunjalaGondi : Script where
  names := ["gunjalagondi", "gong"]
  own := .ofText
    "11d60 6 1 2 1 25 1 2 1 6 7 a"
  shared := .ofText
    "b7 1 8ac 2"

def masaramGondi : Script where
  names := ["masaramgondi", "gonm"]
  own := .ofText
    "11d00 7 1 2 1 2c 3 1 1 2 1 9 8 a"
  shared := .ofText
    "964 2"

def gothic : Script where
  names := ["gothic", "goth"]
  own := .ofText
    "10330 1b"
  shared := .ofText
    "b7 1 24c 2 2 1 28 1"

def grantha : Script where
  names := ["grantha", "gran"]
  own := .ofText
    "11300 4 1 8 2 2 2 16 1 7 1 2 1 5 2 9 2 2 2 3 2 1 6 1 5 7 2 7 3 5"
  shared := .ofText
    "951 2 11 2 280 e 10dc 1 1 2 1e 3 3 2 3f6 1 f24a 1 c94 2 1 1"

def greek : Script where
  names := ["greek", "grek"]
  own := .ofLines [
    "370 4 1 3 2 4 1 1 4 1 1 1 1 3 1 1 1 14 1 3f e 10 1926 5 32 5 4 5 54 1 140 16 2 6 2 26 2",
    "6 2 8 1 1 1 1 1 1 1 1f 2 35 1 f 1 e 2 6 1 13 2 3 1 9 127 1 8a3e 1 55da 4f 11 1 d05f 46"]
  shared := .ofText
    "b7 1 248 2 2 1 1 1 1 1 a 1 2e 1 2 1 2e 1 1a4b 2 29b 1"

def gujarati : Script where
  names := ["gujarati", "gujr"]
  own := .ofText
    "a81 3 1 9 1 3 1 16 1 7 1 2 1 5 2 a 1 3 1 3 2 1 f 4 2 c 7 7"
  shared := .ofText
    "951 2 11 2 9eca a"

def gurmukhi : Script where
  names := ["gurmukhi", "guru"]
  own := .ofText
    "a01 3 1 6 4 2 2 16 1 7 1 2 1 2 1 2 2 1 1 5 4 2 2 3 3 1 7 4 1 1 7 11"
  shared := .ofText
    "951 2 11 2 9eca a"

def hangul : Script where
  names := ["hangul", "hang"]
  own := .ofText
    "1100 100 1e2e 2 101 5e 71 1f 41 1f 76e1 1d 283 2ba4 c 17 4 31 27a4 1f 3 6 2 6 2 6 2 3"
  shared := .ofText
    "3001 3 4 a 1 d 10 1 6 1 c3 1 cd49 2 11a 5"

def han : Script where
  names := ["han", "hani"]
  own := .ofLines [
    "2e80 1a 1 59 c d6 2f 1 1 1 19 9 e 4 3c4 19c0 40 5200 5900 16e 2 6a 7508 2 c 2 900e a6e0",
    "20 103a 6 de 2 1682 e 1d31 f 26e 9a2 21e 5e2 134b 5 1060"]
  shared := .ofLines [
    "b7 1 2f38 10 1 3 2 1 1 a 1 d a 4 2 1 6 1 4 4 bb 1 94 10 20 26 9 1 30 28 38 31 f c 33 1",
    "58 19 a 5 60 1f 7301 8 573d 2 11a 5 d3fa 12 1ede 2"]

def hanunoo : Script where
  names := ["hanunoo", "hano"]
  own := .ofText
    "1720 15"
  shared := .ofText
    "1735 2"

def hatran : Script where
  names := ["hatran", "hatr"]
  own := .ofText
    "108e0 13 1 2 5 5"

def hebrew : Script where
  names := ["hebrew", "hebr"]
  own := .ofText
    "591 37 8 1b 4 6 f528 1a 1 5 1 1 1 2 1 2 1 a"
  shared := .ofText
    "307 2"

def hiragana : Script where
  names := ["hiragana", "hira"]
  own := .ofText
    "3041 56 6 3 17f61 11f 12 1 1d 3 40ad 1"
  shared := .ofText
    "3001 3 4 a 1 d 10 6 1 1 4 2 5b 4 3 1 5a 2 cd48 2 11a 5 a 1 2d 2"

def anatolianHieroglyphs : Script where
  names := ["anatolianhieroglyphs", "hluw"]
  own := .ofText
    "14400 247"

def pahawhHmong : Script where
  names := ["pahawhhmong", "hmng"]
  own := .ofText
    "16b00 46 a a 1 7 1 15 5 13"

def nyiakengPuachueHmong : Script where
  names := ["nyiakengpuachuehmong", "hmnp"]
  own := .ofText
    "1e100 2d 3 e 2 a 4 2"

def oldHungarian : Script where
  names := ["oldhungarian", "hung"]
  own := .ofText
    "10c80 33 d 33 7 6"
  shared := .ofText
    "205a 1 2 1 dd3 1 f 1"

def oldItalic : Script where
  names := ["olditalic", "ital"]
  own := .ofText
    "10300 24 9 3"

def javanese : Script where
  names := ["javanese", "java"]
  own := .ofText
    "a980 4e 2 a 4 2"
  shared := .ofText
    "a9cf 1"

def kayahLi : Script where
  names := ["kayahli", "kali"]
  own := .ofText
    "a900 2e 1 1"
  shared := .ofText
    "a92e 1"

def katakana : Script where
  names := ["katakana", "kana"]
  own := .ofText
    "30a1 5a 2 3 f0 10 d0 2f 1 58 cc0e a 1 2d b052 4 1 7 1 2 1 1 11f 3 32 1 e 4"
  shared := .ofText
    "305 1 1d 1 2cdd 3 4 a 1 d 10 6 1 1 4 2 5b 4 3 1 5a 2 cd48 2 11a 5 a 1 2d 2"

def kawi : Script where
  names := ["kawi"]
  own := .ofText
    "11f00 11 1 29 3 1d"

def kharoshthi : Script where
  names := ["kharoshthi", "khar"]
  own := .ofText
    "10a00 4 1 2 5 8 1 3 1 1d 2 3 4 a 7 9"

def khmer : Script where
  names := ["khmer", "khmr"]
  own := .ofText
    "1780 5e 2 a 6 a 1e6 20"

def khojki : Script where
  names := ["khojki", "khoj"]
  own := .ofText
    "11200 12 1 2f"
  shared := .ofText
    "ae6 a 9d40 a"

def khitanSmallScript : Script where
  names := ["khitansmallscript", "kits"]
  own := .ofText
    "16fe4 1 1b1b 1d6 29 1"

def kannada : Script where
  names := ["kannada", "knda"]
  own := .ofText
    "c80 d 1 3 1 17 1 a 1 5 2 9 1 3 1 4 7 2 6 2 1 4 2 a 1 3"
  shared := .ofText
    "951 2 11 2 136a 1 1 2 6 1 17 1 1 1 8b3b 6"

def kaithi : Script where
  names := ["kaithi", "kthi"]
  own := .ofText
    "11080 43 a 1"
  shared := .ofText
    "966 a 24c1 1 79fe a"

def taiTham : Script where
  names := ["taitham", "lana"]
  own := .ofText
    "1a20 3f 1 1d 2 b 6 a 6 e"

def lao : Script where
  names := ["lao", "laoo"]
  own := .ofText
    "e81 2 1 1 1 5 1 18 1 1 1 17 2 5 1 1 1 7 1 a 2 4"

def latin : Script where
  names := ["latin", "latn"]
  own := .ofLines [
    "41 1a 6 1a 2f 1 f 1 5 17 1 1f 1 1c1 27 5 1a1b 26 6 31 5 4 5 d 1 46 41 100 171 1 d 1 10",
    "d 8d 2 6 1 1b 1 11 29 ad7 20 7aa2 66 3 43 2 2 1 1 1 8 15 e 330 2b 1 9 1 4 4f96 7 41a 1a",
    "6 1a 825 6 1 2a 1 9 d745 1f 6 6"]
  shared := .ofLines [
    "b7 1 204 1 a 1 1 3 1 1 9 1 1 1 26 f 1 2 1 1 c 1 2 3 7 2 1 2 26 1 5 1 4 d 115 2 4ca 2",
    "7a8 1 cfc 1 236 1 c0 1 d26 1 78e8 8 226 1"]

def lepcha : Script where
  names := ["lepcha", "lepc"]
  own := .ofText
    "1c00 38 3 f 3 3"

def limbu : Script where
  names := ["limbu", "limb"]
  own := .ofText
    "1900 1f 1 c 4 c 4 1 3 c"
  shared := .ofText
    "965 1"

def linearA : Script where
  names := ["lineara", "lina"]
  own := .ofText
    "10600 137 9 16 a 8"
  shared := .ofText
    "10107 2d"

def linearB : Script where
  names := ["linearb", "linb"]
  own := .ofText
    "10000 c 1 1a 1 13 1 2 1 f 2 e 22 7b"
  shared := .ofText
    "10100 3 4 2d 3 9"

def lisu : Script where
  names := ["lisu"]
  own := .ofText
    "a4d0 30 7ab0 1"
  shared := .ofText
    "2bc 1 10 1 2d3c 2"

def lycian : Script where
  names := ["lycian", "lyci"]
  own := .ofText
    "10280 1d"
  shared := .ofText
    "205a 1"

def lydian : Script where
  names := ["lydian", "lydi"]
  own := .ofText
    "10920 1a 5 1"
  shared := .ofText
    "b7 1 2d79 1"

def mahajani : Script where
  names := ["mahajani", "mahj"]
  own := .ofText
    "11150 27"
  shared := .ofText
    "b7 1 8ac c 9ec0 a"

def makasar : Script where
  names := ["makasar", "maka"]
  own := .ofText
    "11ee0 19"

def mandaic : Script where
  names := ["mandaic", "mand"]
  own := .ofText
    "840 1c 2 1"
  shared := .ofText
    "640 1"

def manichaean : Script where
  names := ["manichaean", "mani"]
  own := .ofText
    "10ac0 27 4 c"
  shared := .ofText
    "640 1"

def marchen : Script where
  names := ["marchen", "marc"]
  own := .ofText
    "11c70 20 2 16 1 e"

def medefaidrin : Script where
  names := ["medefaidrin", "medf"]
  own := .ofText
    "16e40 5b"

def mendeKikakui : Script where
  names := ["mendekikakui", "mend"]
  own := .ofText
    "1e800 c5 2 10"

def meroiticCursive : Script where
  names := ["meroiticcursive", "merc"]
  own := .ofText
    "109a0 18 4 14 2 2e"

def meroiticHieroglyphs : Script where
  names := ["meroitichieroglyphs", "mero"]
  own := .ofText
    "10980 20"
  shared := .ofText
    "205d 1"

def malayalam : Script where
  names := ["malayalam", "mlym"]
  own := .ofText
    "d00 d 1 3 1 33 1 3 1 6 4 10 2 1a"
  shared := .ofText
    "951 2 11 2 1374 1 17 1 8b3d 3"

def modi : Script where
  names := ["modi"]
  own := .ofText
    "11600 45 b a"
  shared := .ofText
    "a830 a"

def mongolian : Script where
  names := ["mongolian", "mong"]
  own := .ofText
    "1800 2 2 1 1 14 6 59 7 2b fdb5 d"
  shared := .ofText
    "1802 2 1 1 829 1 fd1 2 5 4"

def mro : Script where
  names := ["mro", "mroo"]
  own := .ofText
    "16a40 1f 1 a 4 2"

def meeteiMayek : Script where
  names := ["meeteimayek", "mtei"]
  own := .ofText
    "aae0 17 c9 2e 2 a"

def multani : Script where
  names := ["multani", "mult"]
  own := .ofText
    "11280 7 1 1 1 4 1 f 1 b"
  shared := .ofText
    "a66 a"

def myanmar : Script where
  names := ["myanmar", "mymr"]
  own := .ofText
    "1000 a0 9940 1f 61 20 6c50 14"
  shared := .ofText
    "a92e 1"

def nagMundari : Script where
  names := ["nagmundari", "nagm"]
  own := .ofText
    "1e4d0 2a"

def nandinagari : Script where
  names := ["nandinagari", "nand"]
  own := .ofText
    "119a0 8 2 2e 2 b"
  shared := .ofText
    "964 2 380 a ff9 1 8 1 7 1 8b35 6"

def oldNorthArabian : Script where
  names := ["oldnortharabian", "narb"]
  own := .ofText
    "10a80 20"

def nabataean : Script where
  names := ["nabataean", "nbat"]
  own := .ofText
    "10880 1f 8 9"

def newa : Script where
  names := ["newa"]
  own := .ofText
    "11400 5c 1 5"

def nko : Script where
  names := ["nko", "nkoo"]
  own := .ofText
    "7c0 3b 2 3"
  shared := .ofText
    "60c 1 e 1 3 1 f71e 2"

def nushu : Script where
  names := ["nushu", "nshu"]
  own := .ofText
    "16fe1 1 418e 18c"

def ogham : Script where
  names := ["ogham", "ogam"]
  own := .ofText
    "1680 1d"

def olChiki : Script where
  names := ["olchiki", "olck"]
  own := .ofText
    "1c50 30"

def oldTurkic : Script where
  names := ["oldturkic", "orkh"]
  own := .ofText
    "10c00 49"
  shared := .ofText
    "205a 1 dd5 1"

def oriya : Script where
  names := ["oriya", "orya"]
  own := .ofText
    "b01 3 1 8 2 2 2 16 1 7 1 2 1 5 2 9 2 2 2 3 7 3 4 2 1 5 2 12"
  shared := .ofText
    "951 2 11 2 1374 1 17 1"

def osage : Script where
  names := ["osage", "osge"]
  own := .ofText
    "104b0 24 4 24"
  shared := .ofText
    "301 1 2 1 6 1 4c 1"

def osmanya : Script where
  names := ["osmanya", "osma"]
  own := .ofText
    "10480 1e 2 a"

def oldUyghur : Script where
  names := ["olduyghur", "ougr"]
  own := .ofText
    "10f70 1a"
  shared := .ofText
    "640 1 104b1 1"

def palmyrene : Script where
  names := ["palmyrene", "palm"]
  own := .ofText
    "10860 20"

def pauCinHau : Script where
  names := ["paucinhau", "pauc"]
  own := .ofText
    "11ac0 39"

def oldPermic : Script where
  names := ["oldpermic", "perm"]
  own := .ofText
    "10350 2b"
  shared := .ofText
    "b7 1 248 1 5 3 a 1 16f 1"

def phagsPa : Script where
  names := ["phagspa", "phag"]
  own := .ofText
    "a840 38"
  shared := .ofText
    "1802 2 1 1 829 1 fd2 1"

def inscriptionalPahlavi : Script where
  names := ["inscriptionalpahlavi", "phli"]
  own := .ofText
    "10b60 13 5 8"

def psalterPahlavi : Script where
  names := ["psalterpahlavi", "phlp"]
  own := .ofText
    "10b80 12 7 4 c 7"
  shared := .ofText
    "640 1"

def phoenician : Script where
  names := ["phoenician", "phnx"]
  own := .ofText
    "10900 1c 3 1"

def miao : Script where
  names := ["miao", "plrd"]
  own := .ofText
    "16f00 4b 4 39 7 11"

def inscriptionalParthian : Script where
  names := ["inscriptionalparthian", "prti"]
  own := .ofText
    "10b40 16 2 8"

def rejang : Script where
  names := ["rejang", "rjng"]
  own := .ofText
    "a930 24 b 1"

def hanifiRohingya : Script where
  names := ["hanifirohingya", "rohg"]
  own := .ofText
    "10d00 28 8 a"
  shared := .ofText
    "60c 1 e 1 3 1 20 1 93 1"

def runic : Script where
  names := ["runic", "runr"]
  own := .ofText
    "16a0 4b 3 b"
  shared := .ofText
    "16eb 3"

def samaritan : Script where
  names := ["samaritan", "samr"]
  own := .ofText
    "800 2e 2 f"
  shared := .ofText
    "2e31 1"

def oldSouthArabian : Script where
  names := ["oldsoutharabian", "sarb"]
  own := .ofText
    "10a60 20"

def saurashtra : Script where
  names := ["saurashtra", "saur"]
  own := .ofText
    "a880 46 8 c"

def signwriting : Script where
  names := ["signwriting", "sgnw"]
  own := .ofText
    "1d800 28c f 5 1 f"

def shavian : Script where
  names := ["shavian", "shaw"]
  own := .ofText
    "10450 30"
  shared := .ofText
    "b7 1"

def sharada : Script where
  names := ["sharada", "shrd"]
  own := .ofText
    "11180 60"
  shared := .ofText
    "951 1 1385 1 1 1 2 2 2 1 8b4f 6 2 1"

def siddham : Script where
  names := ["siddham", "sidd"]
  own := .ofText
    "11580 36 2 26"

def khudawadi : Script where
  names := ["khudawadi", "sind"]
  own := .ofText
    "112b0 3b 5 a"
  shared := .ofText
    "964 2 9eca a"

def sinhala : Script where
  names := ["sinhala", "sinh"]
  own := .ofText
    "d81 3 1 12 3 18 1 9 1 1 2 7 3 1 4 6 1 1 1 8 6 a 2 3 103ec 14"
  shared := .ofText
    "964 2 138c 1"

def sogdian : Script where
  names := ["sogdian", "sogd"]
  own := .ofText
    "10f30 2a"
  shared := .ofText
    "640 1"

def oldSogdian : Script where
  names := ["oldsogdian", "sogo"]
  own := .ofText
    "10f00 28"

def soraSompeng : Script where
  names := ["sorasompeng", "sora"]
  own := .ofText
    "110d0 19 7 a"

def soyombo : Script where
  names := ["soyombo", "soyo"]
  own := .ofText
    "11a50 53"

def sundanese : Script where
  names := ["sundanese", "sund"]
  own := .ofText
    "1b80 40 100 8"

def sylotiNagri : Script where
  names := ["sylotinagri", "sylo"]
  own := .ofText
    "a800 2d"
  shared := .ofText
    "964 2 80 a"

def syriac : Script where
  names := ["syriac", "syrc"]
  own := .ofText
    "700 e 1 3c 2 3 110 b"
  shared := .ofText
    "303 2 2 2 1 1 15 1 2 3 7 2 1 1 2db 1 e 2 2 1 20 1 a b 1a 1 1787 1 1 1"

def tagbanwa : Script where
  names := ["tagbanwa", "tagb"]
  own := .ofText
    "1760 d 1 3 1 2"
  shared := .ofText
    "1735 2"

def takri : Script where
  names := ["takri", "takr"]
  own := .ofText
    "11680 3a 6 a"
  shared := .ofText
    "964 2 9eca a"

def taiLe : Script where
  names := ["taile", "tale"]
  own := .ofText
    "1950 1e 2 5"
  shared := .ofText
    "300 2 5 2 3 1 d33 a"

def newTaiLue : Script where
  names := ["newtailue", "talu"]
  own := .ofText
    "1980 2c 4 1a 6 b 3 2"

def tamil : Script where
  names := ["tamil", "taml"]
  own := .ofText
    "b82 2 1 6 3 3 1 4 3 2 1 1 1 2 3 2 3 3 3 c 4 5 3 3 1 4 2 1 6 1 e 15 113c5 32 d 1"
  shared := .ofText
    "951 2 11 2 1374 1 8c18 1 6a0d 1 1 1 37 2"

def tangut : Script where
  names := ["tangut", "tang"]
  own := .ofText
    "16fe0 1 1f 17f8 8 300 200 9"
  shared := .ofText
    "2ff0 10 1ef 1"

def taiViet : Script where
  names := ["taiviet", "tavt"]
  own := .ofText
    "aa80 43 18 5"

def telugu : Script where
  names := ["telugu", "telu"]
  own := .ofText
    "c00 d 1 3 1 17 1 10 2 9 1 3 1 4 7 2 1 3 2 1 2 4 2 a 7 9"
  shared := .ofText
    "951 2 11 2 136f 2 1 1 1 1 17 1"

def tifinagh : Script where
  names := ["tifinagh", "tfng"]
  own := .ofText
    "2d30 38 7 2 e 1"
  shared := .ofText
    "302 1 1 1 1 4 19 1"

def tagalog : Script where
  names := ["tagalog", "tglg"]
  own := .ofText
    "1700 16 9 1"
  shared := .ofText
    "1735 2"

def thaana : Script where
  names := ["thaana", "thaa"]
  own := .ofText
    "780 32"
  shared := .ofText
    "60c 1 e 2 2 1 40 a f788 1 a 1"

def thai : Script where
  names := ["thai"]
  own := .ofText
    "e01 3a 5 1c"
  shared := .ofText
    "2bc 1 1a 1 2b 1 2d 1"

def tibetan : Script where
  names := ["tibetan", "tibt"]
  own := .ofText
    "f00 48 1 24 4 27 1 24 1 f 1 7 4 2"
  shared := .ofText
    "3008 4"

def tirhuta : Script where
  names := ["tirhuta", "tirh"]
  own := .ofText
    "11480 48 8 a"
  shared := .ofText
    "951 2 11 2 138c 1 8b3d a"

def tangsa : Script where
  names := ["tangsa", "tnsa"]
  own := .ofText
    "16a70 4f 1 a"

def toto : Script where
  names := ["toto"]
  own := .ofText
    "1e290 1f"
  shared := .ofText
    "2bc 1"

def ugaritic : Script where
  names := ["ugaritic", "ugar"]
  own := .ofText
    "10380 1e 1 1"

def vai : Script where
  names := ["vai", "vaii"]
  own := .ofText
    "a500 12c"

def vithkuqi : Script where
  names := ["vithkuqi", "vith"]
  own := .ofText
    "10570 b 1 f 1 7 1 2 1 b 1 f 1 7 1 2"

def warangCiti : Script where
  names := ["warangciti", "wara"]
  own := .ofText
    "118a0 53 c 1"

def wancho : Script where
  names := ["wancho", "wcho"]
  own := .ofText
    "1e2c0 3a 5 1"

def oldPersian : Script where
  names := ["oldpersian", "xpeo"]
  own := .ofText
    "103a0 24 4 e"

def cuneiform : Script where
  names := ["cuneiform", "xsux"]
  own := .ofText
    "12000 39a 66 6f 1 5 b c4"

def yezidi : Script where
  names := ["yezidi", "yezi"]
  own := .ofText
    "10e80 2a 1 3 2 2"
  shared := .ofText
    "60c 1 e 1 3 1 40 a"

def yi : Script where
  names := ["yi", "yiii"]
  own := .ofText
    "a000 48d 3 37"
  shared := .ofText
    "3001 2 5 a 2 8 df 1 ce65 5"

def zanabazarSquare : Script where
  names := ["zanabazarsquare", "zanb"]
  own := .ofText
    "11a00 48"

def inherited : Script where
  names := ["inherited", "zinh", "qaai"]
  own := .ofLines [
    "300 70 115 2 1c4 b 1a 1 2e0 4 115b 1f 201 3 1 d 1 7 4 1 6 1 3 2 c6 40 20c 2 c2 21 f39 4",
    "6b 2 cd65 10 10 e 3cf 1 e2 1 105a 1 bbc4 2e 2 17 220 3 11 8 2 7 1e 4 c2f52 f0"]
  unshared := .ofLines [
    "300 f 1 2 1 1 c 1 2 3 7 2 1 2 10 1 2 1 12 1 5 1 4 d 115 2 1c4 b 1a 1 2e0 2 137d 3 1 d 1",
    "7 4 1 6 1 3 2 c6 2 36 1 1 1 2f5 1 f39 4 6b 2 d245 1 105a 1"]

def common : Script where
  names := ["common", "zyyy"]
  own := .ofLines [
    "0 41 1a 6 1a 2f 1 f 1 5 17 1 1f 1 1c1 27 5 5 2 14 74 1 9 1 6 1 1 1 27d 1 6 1 e 1 3 1 20",
    "1 9c 1 204 1 81 2 4d9 1 195 4 122 1 5ef 3 47 2 cb 2 1 1 4cd 1 d 1 7 4 1 6 1 3 2 1 305 c",
    "2 57 1 b 3 b 1 f 11 21 3f 26 1 3 2 6 1 1b 1 11 29 3 4 29a 16 b 15 3a0 100 274 2 20 1 69",
    "200 5e 192 15 1 1 1 19 f 8 4 4 5b 2 3 1 5a 2 93 10 20 26 9 1 30 40 1f 51 2f 1 58 a8",
    "19c0 40 5900 22 66 3 a5 a f4 1 a0 1 18b 1 e 2 51d2 2 d0 a 16 23 1 13 1 4 93 1 1 20 1a 6",
    "1a b a 1 2d 2 40 7 1 7 a 5 102 3 4 2d 3 9 50 d 33 2d e4 1b b9a4 4 f5c fa 6 1b4 9c 74 3c",
    "f6 a 27 2 3e 3 11 8 2 7 1e 4 3d d5 14 c 14 c 57 9 19 87 55 1 47 1 2 2 1 2 2 2 4 1 c 1 1",
    "1 7 1 41 1 4 2 8 1 7 1 1c 1 4 1 5 1 1 3 7 1 154 2 124 2 32 1471 44 4c 3d 2c2 2c 4 64 c",
    "f 2 f 1 f 1 25 a ae 38 1a 1 2 d 2c 4 9 7 2 e 6 9a 3d8 4 11 3 d 3 77 4 5f 6 c 4 1 f c 4",
    "38 8 a 6 28 8 1e 2 c 4 2 3e 154 c e 2 d 3 a 5 38 7 f 2 b 6 9 7 93 1 66 c0407 1 1e 60"]
  unshared := .ofLines [
    "b7 1 204 1 a 1 1 3 1 1 9 1 1 1 9a 1 297 1 e 1 3 1 20 1 323 2 795 1 5ef 3 47 2 cb 2 1 1",
    "4cd 1 d 1 7 4 1 6 1 3 2 1 334 1 1f 1 a 1 2 1 db9 1 18 2 a 1 4 1 1 1 1ac 10 1 3 2 1 1 a",
    "1 d 10 6 1 1 4 4 5b 2 3 1 5a 2 93 10 20 26 9 1 30 28 38 31 f c 33 1 58 19 a 5 60 1f",
    "7301 8 128 a f4 1 a0 1 536e 2 105 2 11a 5 a 1 2d 2 160 3 4 2d 3 9 1a1 1b b9a4 4 16bc 12",
    "1ede 2"]

def garay : Script where
  names := ["garay", "gara"]
  own := .ofText
    "10d40 26 3 1d 8 2"
  shared := .ofText
    "60c 1 e 1 3 1"

def gurungKhema : Script where
  names := ["gurungkhema", "gukh"]
  own := .ofText
    "16100 3a"
  shared := .ofText
    "965 1"

def kiratRai : Script where
  names := ["kiratrai", "krai"]
  own := .ofText
    "16d40 3a"

def olOnal : Script where
  names := ["olonal", "onao"]
  own := .ofText
    "1e5d0 2b 4 1"
  shared := .ofText
    "964 2"

def sunuwar : Script where
  names := ["sunuwar", "sunu"]
  own := .ofText
    "11bc0 22 e a"
  shared := .ofText
    "300 2 1 1 9 1 2 1 1c 1 3 1"

def todhri : Script where
  names := ["todhri", "todr"]
  own := .ofText
    "105c0 34"
  shared := .ofText
    "301 1 2 1 2 1 9 1 1 1 4a 1"

def tuluTigalari : Script where
  names := ["tulutigalari", "tutg"]
  own := .ofText
    "11380 a 1 1 2 1 1 26 1 a 1 1 2 1 1 4 1 a 1 2 8 2"
  shared := .ofText
    "ce6 a 1002 1 1 1 8b3b 6 bb 1"

/-- All scripts. -/
def all : List Script := [
  adlam, caucasianAlbanian, ahom, arabic, imperialAramaic, armenian, avestan, balinese, bamum,
  bassaVah, batak, bengali, bhaiksuki, bopomofo, brahmi, braille, buginese, buhid, chakma,
  canadianAboriginal, carian, cham, cherokee, chorasmian, coptic, cyproMinoan, cypriot, cyrillic,
  devanagari, divesAkuru, dogra, deseret, duployan, egyptianHieroglyphs, elbasan, elymaic,
  ethiopic, georgian, glagolitic, gunjalaGondi, masaramGondi, gothic, grantha, greek, gujarati,
  gurmukhi, hangul, han, hanunoo, hatran, hebrew, hiragana, anatolianHieroglyphs, pahawhHmong,
  nyiakengPuachueHmong, oldHungarian, oldItalic, javanese, kayahLi, katakana, kawi, kharoshthi,
  khmer, khojki, khitanSmallScript, kannada, kaithi, taiTham, lao, latin, lepcha, limbu, linearA,
  linearB, lisu, lycian, lydian, mahajani, makasar, mandaic, manichaean, marchen, medefaidrin,
  mendeKikakui, meroiticCursive, meroiticHieroglyphs, malayalam, modi, mongolian, mro,
  meeteiMayek, multani, myanmar, nagMundari, nandinagari, oldNorthArabian, nabataean, newa, nko,
  nushu, ogham, olChiki, oldTurkic, oriya, osage, osmanya, oldUyghur, palmyrene, pauCinHau,
  oldPermic, phagsPa, inscriptionalPahlavi, psalterPahlavi, phoenician, miao,
  inscriptionalParthian, rejang, hanifiRohingya, runic, samaritan, oldSouthArabian, saurashtra,
  signwriting, shavian, sharada, siddham, khudawadi, sinhala, sogdian, oldSogdian, soraSompeng,
  soyombo, sundanese, sylotiNagri, syriac, tagbanwa, takri, taiLe, newTaiLue, tamil, tangut,
  taiViet, telugu, tifinagh, tagalog, thaana, thai, tibetan, tirhuta, tangsa, toto, ugaritic, vai,
  vithkuqi, warangCiti, wancho, oldPersian, cuneiform, yezidi, yi, zanabazarSquare, inherited,
  common, garay, gurungKhema, kiratRai, olOnal, sunuwar, todhri, tuluTigalari]

end Script

end Forms.Unicode
