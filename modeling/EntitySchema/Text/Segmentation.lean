import EntitySchema.Text.BinaryProperty
import EntitySchema.Text.Script
/-!
Roles of characters in finding the bounds of user-perceived characters, words and sentences.

Each of the three properties gives a code point at most one of its values. Code points without a
role have no value here.
-/

namespace EntitySchema

def zeroWidthJoiner : CodeRanges := CodeRanges.single 0x200D

def regionalIndicators : CodeRanges := [(0x1F1E6, 0x1F1FF)]

def emojiModifiers : CodeRanges := [(0x1F3FB, 0x1F3FF)]

/-- Signs that stand before a number and surround it. They are written as part of the number. -/
def numberSigns : CodeRanges := CodeRanges.ofTable "600-605 6DD 890-891 8E2 110BD 110CD"

def abbreviationSigns : CodeRanges := CodeRanges.single 0x70F

def scriptRanges (name : String) : CodeRanges := (script? name).getD []

/-! ## User-perceived characters -/

namespace GraphemeBreak

def extend : CodeRanges := CodeRanges.union graphemeExtendRanges emojiModifiers

def prepend : CodeRanges :=
  CodeRanges.union (listedProperty "pcm")
    (CodeRanges.ofTable "D4E 111C2-111C3 113D1 1193F 11941 11A3A 11A84-11A89 11D46 11F02")

def control : CodeRanges :=
  let unassigned := CodeRanges.complement assignedRanges
  (CodeRanges.union (rangesOfCategories ["zl", "zp", "cc", "cf"])
    (unassigned.intersection (listedProperty "di"))).difference
      (CodeRanges.unions [CodeRanges.ofTable "A D 200C-200D", extend, prepend])

def spacingMark : CodeRanges :=
  (CodeRanges.union (rangesOfCategories ["mc"]) (CodeRanges.ofTable "E33 EB3")).difference
    (CodeRanges.union extend
      (CodeRanges.ofTable "102B-102C 1038 1062-1064 1067-106D 1083 1087-108C 108F 109A-109C 1A61
        1A63-1A64 AA7B AA7D 11720-11721"))

def firstSyllable : Nat := 0xAC00

/-- Syllables come in rows: one without a final consonant, and then those with one. -/
def syllablesPerRow : Nat := 28

def syllableRows : Nat := 399

def openSyllables : CodeRanges :=
  (List.range syllableRows).map fun row =>
    (firstSyllable + row * syllablesPerRow, firstSyllable + row * syllablesPerRow)

def closedSyllables : CodeRanges :=
  (List.range syllableRows).map fun row =>
    (firstSyllable + row * syllablesPerRow + 1, firstSyllable + (row + 1) * syllablesPerRow - 1)

def ranges? (value : String) : Option CodeRanges :=
  match value with
  | "cr" => some (CodeRanges.single 0x0D)
  | "lf" => some (CodeRanges.single 0x0A)
  | "cn" | "control" => some control
  | "ex" | "extend" => some extend
  | "pp" | "prepend" => some prepend
  | "sm" | "spacingmark" => some spacingMark
  | "ri" | "regionalindicator" => some regionalIndicators
  | "zwj" => some zeroWidthJoiner
  | "l" => some [(0x1100, 0x115F), (0xA960, 0xA97C)]
  | "v" => some (CodeRanges.ofTable "1160-11A7 D7B0-D7C6 16D63 16D67-16D6A")
  | "t" => some [(0x11A8, 0x11FF), (0xD7CB, 0xD7FB)]
  | "lv" => some openSyllables
  | "lvt" => some closedSyllables
  | _ => none

end GraphemeBreak

/-! ## Words -/

namespace WordBreak

def extend : CodeRanges :=
  (CodeRanges.unions [graphemeExtendRanges, rangesOfCategories ["mc"], emojiModifiers]).difference
    zeroWidthJoiner

def format : CodeRanges :=
  (rangesOfCategories ["cf"]).difference
    (CodeRanges.unions [CodeRanges.ofTable "200B-200D", extend, numberSigns, abbreviationSigns])

def katakana : CodeRanges :=
  CodeRanges.union (scriptRanges "katakana") (CodeRanges.ofTable "3031-3035 309B-309C 30A0 30FC FF70")

def hebrewLetter : CodeRanges :=
  (scriptRanges "hebrew").intersection (rangesOfCategories ["lo"])

def unspacedLetters : CodeRanges :=
  CodeRanges.ofTable "E01-E30 E32-E33 E40-E46 E81-E82 E84 E86-E8A E8C-EA3 EA5 EA7-EB0 EB2-EB3 EBD
    EC0-EC4 EC6 EDC-EDF 1000-102A 103F 1050-1055 105A-105D 1061 1065-1066 106E-1070 1075-1081 108E
    1780-17B3 17D7 17DC 1950-196D 1970-1974 1980-19AB 19B0-19C9 1A20-1A54 1AA7 A9E0-A9E4 A9E6-A9EF
    A9FA-A9FE AA60-AA76 AA7A AA7E-AAAF AAB1 AAB5-AAB6 AAB9-AABD AAC0 AAC2 AADB-AADD 11700-1171A
    11740-11746"

def letterLikeSigns : CodeRanges :=
  CodeRanges.ofTable "2C2-2C5 2D2-2D7 2DE-2DF 2E5-2EB 2ED 2EF-2FF 55A-55C 55E 58A 5F3 A708-A716
    A720-A721 A789-A78A AB5B"

def letter : CodeRanges :=
  (CodeRanges.unions [alphabeticRanges, letterLikeSigns, abbreviationSigns]).difference
    (CodeRanges.unions [listedProperty "ideo", katakana, scriptRanges "hiragana", extend,
      hebrewLetter, unspacedLetters])

def numeric : CodeRanges :=
  CodeRanges.unions [rangesOfCategories ["nd"], CodeRanges.single 0x66B, numberSigns]

def ranges? (value : String) : Option CodeRanges :=
  match value with
  | "cr" => some (CodeRanges.single 0x0D)
  | "lf" => some (CodeRanges.single 0x0A)
  | "nl" | "newline" => some (CodeRanges.ofTable "B-C 85 2028-2029")
  | "extend" => some extend
  | "ri" | "regionalindicator" => some regionalIndicators
  | "zwj" => some zeroWidthJoiner
  | "fo" | "format" => some format
  | "ka" | "katakana" => some katakana
  | "hl" | "hebrewletter" => some hebrewLetter
  | "le" | "aletter" => some letter
  | "sq" | "singlequote" => some (CodeRanges.single 0x27)
  | "dq" | "doublequote" => some (CodeRanges.single 0x22)
  | "mb" | "midnumlet" => some (CodeRanges.ofTable "2E 2018-2019 2024 FE52 FF07 FF0E")
  | "ml" | "midletter" => some (CodeRanges.ofTable "3A B7 387 55F 5F4 2027 FE13 FE55 FF1A")
  | "mn" | "midnum" =>
    some (CodeRanges.ofTable "2C 3B 37E 589 60C-60D 66C 7F8 2044 FE10 FE14 FE50 FE54 FF0C FF1B")
  | "nu" | "numeric" => some numeric
  | "ex" | "extendnumlet" =>
    some (CodeRanges.union (rangesOfCategories ["pc"]) (CodeRanges.single 0x202F))
  | "wsegspace" =>
    some ((rangesOfCategories ["zs"]).difference (CodeRanges.ofTable "A0 2007 202F"))
  | _ => none

end WordBreak

/-! ## Sentences -/

namespace SentenceBreak

def extend : CodeRanges :=
  CodeRanges.unions [graphemeExtendRanges, zeroWidthJoiner, rangesOfCategories ["mc"]]

def format : CodeRanges :=
  (rangesOfCategories ["cf"]).difference
    (CodeRanges.unions [CodeRanges.ofTable "200C-200D", extend, numberSigns, abbreviationSigns])

def lower : CodeRanges :=
  (lowercaseRanges.difference graphemeExtendRanges).difference
    (CodeRanges.ofTable "10D0-10FA 10FD-10FF")

def upper : CodeRanges :=
  (CodeRanges.union (rangesOfCategories ["lt"]) uppercaseRanges).difference
    (CodeRanges.ofTable "1C90-1CBA 1CBD-1CBF")

def otherLetter : CodeRanges :=
  (CodeRanges.unions [alphabeticRanges, CodeRanges.single 0x5F3, abbreviationSigns]).difference
    (CodeRanges.unions [lower, upper, extend])

def fullStops : CodeRanges := CodeRanges.ofTable "2E 2024 FE52 FF0E"

def terminator : CodeRanges := (listedProperty "sterm").difference fullStops

def close : CodeRanges :=
  (CodeRanges.union (rangesOfCategories ["ps", "pe", "pi", "pf"])
    (CodeRanges.ofTable "22 27 275B-2760 2E00-2E01 2E06-2E08 2E0B 1F676-1F678")).difference terminator

def ranges? (value : String) : Option CodeRanges :=
  match value with
  | "cr" => some (CodeRanges.single 0x0D)
  | "lf" => some (CodeRanges.single 0x0A)
  | "ex" | "extend" => some extend
  | "se" | "sep" => some (CodeRanges.ofTable "85 2028-2029")
  | "fo" | "format" => some format
  | "sp" => some ((listedProperty "space").difference (CodeRanges.ofTable "A D 85 2028-2029"))
  | "lo" | "lower" => some lower
  | "up" | "upper" => some upper
  | "le" | "oletter" => some otherLetter
  | "nu" | "numeric" => some (CodeRanges.union WordBreak.numeric (CodeRanges.single 0x66C))
  | "at" | "aterm" => some fullStops
  | "sc" | "scontinue" =>
    some (CodeRanges.ofTable "2C-2D 3A-3B 37E 55D 60C-60D 7F8 1802 1808 2013-2014 3001 FE10-FE11
      FE13-FE14 FE31-FE32 FE50-FE51 FE54-FE55 FE58 FE63 FF0C-FF0D FF1A-FF1B FF64")
  | "st" | "sterm" => some terminator
  | "cl" | "close" => some close
  | _ => none

end SentenceBreak

end EntitySchema
