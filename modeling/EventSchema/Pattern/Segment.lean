import EventSchema.Pattern.Lookup

set_option autoImplicit false

namespace EventSchema.Pattern

namespace Segment

def codes (text : String) : CharSet := .ofTable text

def cr : CharSet := codes "d"

def lf : CharSet := codes "a"

def joiner : CharSet := codes "200d"

def extenders : CharSet := Trait.chars "graphemeextend"

def modifiers : CharSet := Trait.chars "emojimodifier"

def numberMarks : CharSet := Trait.chars "prependedconcatenationmark"

/-- Formats that neither join characters nor stand in front of a number. -/
def formats : CharSet :=
  ((Category.chars ["cf"]).diff (extenders.union joiner)).diff numberMarks

/-- Syllables of a leading consonant and a vowel; each is followed by those that have a trailing
consonant, too. -/
def openSyllables : CharSet :=
  ⟨(List.range 399).map fun i => (0xac00 + 28 * i, 0xac00 + 28 * i)⟩

def graphemeExtend : CharSet := extenders.union modifiers

def control : CharSet :=
  ((Category.chars ["zl", "zp", "cc"]).union formats).union
    ((Category.chars ["cn"]).inter (Trait.chars "defaultignorablecodepoint")) |>.diff
    (cr.union lf)

def prepend : CharSet :=
  numberMarks.union (codes "d4e 111c2-111c3 113d1 1193f 11941 11a3a 11a84-11a89 11d46 11f02")

def spacing : CharSet :=
  (((Category.chars ["mc"]).union (codes "e33 eb3")).diff graphemeExtend).diff
    (codes "102b-102c 1038 1062-1064 1067-106d 1083 1087-108c 108f 109a-109c 1a61 1a63-1a64 aa7b
      aa7d 11720-11721")

def grapheme? : String → Option CharSet
  | "control" | "cn" => some control
  | "cr" => some cr
  | "extend" | "ex" => some graphemeExtend
  | "l" => some (codes "1100-115f a960-a97c")
  | "lf" => some lf
  | "lv" => some openSyllables
  | "lvt" => some ((codes "ac00-d7a3").diff openSyllables)
  | "prepend" | "pp" => some prepend
  | "regionalindicator" | "ri" => some (Trait.chars "regionalindicator")
  | "spacingmark" | "sm" => some spacing
  | "t" => some (codes "11a8-11ff d7cb-d7fb")
  | "v" => some (codes "1160-11a7 d7b0-d7c6 16d63 16d67-16d6a")
  | "zwj" => some joiner
  | _ => none

def wordExtend : CharSet := graphemeExtend.union (Category.chars ["mc"])

def katakana : CharSet :=
  ((Script.find? "katakana").getD .empty).union (codes "3031-3035 309b-309c 30a0 30fc ff70")

def hebrewLetters : CharSet :=
  ((Script.find? "hebrew").getD .empty).inter (Category.chars ["lo"])

/-- Digits, the decimal separator, and marks that stand in front of a number. -/
def sentenceNumeric : CharSet :=
  ((Category.chars ["nd"]).union (codes "66b-66c 19da")).union (numberMarks.diff (codes "70f"))

def wordNumeric : CharSet := sentenceNumeric.diff (codes "66c")

def unspacedLetters : CharSet :=
  codes "e01-e30 e32-e33 e40-e46 e81-e82 e84 e86-e8a e8c-ea3 ea5 ea7-eb0 eb2-eb3 ebd ec0-ec4 ec6
    edc-edf 1000-102a 103f 1050-1055 105a-105d 1061 1065-1066 106e-1070 1075-1081 108e 1780-17b3
    17d7 17dc 1950-196d 1970-1974 1980-19ab 19b0-19c9 1a20-1a54 1aa7 a9e0-a9e4 a9e6-a9ef a9fa-a9fe
    aa60-aa76 aa7a aa7e-aaaf aab1 aab5-aab6 aab9-aabd aac0 aac2 aadb-aadd 11700-1171a 11740-11746"

def wordLetters : CharSet :=
  let letters := (Trait.chars "alphabetic").union
    (codes "b8 2c2-2c5 2d2-2d7 2de-2df 2e5-2eb 2ed 2ef-2ff 55a-55c 55e 58a 5f3 70f a708-a716
      a720-a721 a789-a78a ab5b")
  [Trait.chars "ideographic", katakana, (Script.find? "hiragana").getD .empty, wordExtend,
    hebrewLetters, wordNumeric, unspacedLetters].foldl .diff letters

def word? : String → Option CharSet
  | "aletter" | "le" => some wordLetters
  | "cr" => some cr
  | "doublequote" | "dq" => some (codes "22")
  | "extend" => some wordExtend
  | "extendnumlet" | "ex" => some ((Category.chars ["pc"]).union (codes "202f"))
  | "format" | "fo" => some (formats.diff (codes "200b"))
  | "hebrewletter" | "hl" => some hebrewLetters
  | "katakana" | "ka" => some katakana
  | "lf" => some lf
  | "midletter" | "ml" => some (codes "3a b7 387 55f 5f4 2027 fe13 fe55 ff1a")
  | "midnum" | "mn" =>
    some (codes "2c 3b 37e 589 60c-60d 66c 7f8 2044 fe10 fe14 fe50 fe54 ff0c ff1b")
  | "midnumlet" | "mb" => some (codes "2e 2018-2019 2024 fe52 ff07 ff0e")
  | "newline" | "nl" => some (codes "b-c 85 2028-2029")
  | "numeric" | "nu" => some wordNumeric
  | "regionalindicator" | "ri" => some (Trait.chars "regionalindicator")
  | "singlequote" | "sq" => some (codes "27")
  | "wsegspace" => some ((Category.chars ["zs"]).diff (codes "a0 2007 202f"))
  | "zwj" => some joiner
  | _ => none

def separators : CharSet := codes "85 2028-2029"

def sentenceExtend : CharSet := (extenders.union (Category.chars ["mc"])).union joiner

/-- Small letters; those of a script whose capitals do not start sentences are left out. -/
def lower : CharSet := ((Trait.chars "lowercase").diff extenders).diff (codes "10d0-10fa 10fd-10ff")

def upper : CharSet :=
  ((Trait.chars "uppercase").union (Category.chars ["lt"])).diff (codes "1c90-1cba 1cbd-1cbf")

def fullStops : CharSet := codes "2e 2024 fe52 ff0e"

def terminators : CharSet := (Trait.chars "sentenceterminal").diff fullStops

def sentence? : String → Option CharSet
  | "aterm" | "at" => some fullStops
  | "close" | "cl" =>
    some (((Category.chars ["ps", "pe", "pi", "pf"]).union
      (codes "22 27 275b-2760 2e00-2e01 2e06-2e08 2e0b 1f676-1f678")).diff terminators)
  | "cr" => some cr
  | "extend" | "ex" => some sentenceExtend
  | "format" | "fo" => some (formats.union (codes "70f"))
  | "lf" => some lf
  | "lower" | "lo" => some lower
  | "numeric" | "nu" => some sentenceNumeric
  | "oletter" | "le" =>
    some ([lower, upper, sentenceExtend].foldl .diff
      ((Trait.chars "alphabetic").union (codes "5f3")))
  | "scontinue" | "sc" =>
    some (codes "2c-2d 3a-3b 37e 55d 60c-60d 7f8 1802 1808 2013-2014 3001 fe10-fe11 fe13-fe14
      fe31-fe32 fe50-fe51 fe54-fe55 fe58 fe63 ff0c-ff0d ff1a-ff1b ff64")
  | "sep" | "se" => some separators
  | "sp" => some ((Trait.chars "whitespace").diff (separators.union (cr.union lf)))
  | "sterm" | "st" => some terminators
  | "upper" | "up" => some upper
  | _ => none

end Segment

end EventSchema.Pattern
