import Guardrail.Unicode.Emoji
import Guardrail.Unicode.Ideograph
import Guardrail.Unicode.Invisible
import Guardrail.Unicode.Letter
import Guardrail.Unicode.Mark
import Guardrail.Unicode.Punctuation
import Guardrail.Unicode.Script

/-!
# Where texts may be divided

The classes of code points that decide where a text is divided into characters as a reader sees
them, into words and into sentences. A class is given by its short and long name.
-/

namespace Guardrail.Unicode

/-- The carriage return. -/
def carriageReturn : List (Nat × Nat) :=
  [(0x0d, 0x0d)]

/-- The line feed. -/
def lineFeed : List (Nat × Nat) :=
  [(0x0a, 0x0a)]

/-- The joiner of the width zero. -/
def zeroWidthJoiner : List (Nat × Nat) :=
  [(0x200d, 0x200d)]

/-- The syllables of Hangul that consist of two letters: every 28th one. -/
def openSyllables : List (Nat × Nat) :=
  (List.range 399).map fun i => (0xac00 + 28 * i, 0xac00 + 28 * i)

/-- The syllables of Hangul that consist of three letters. -/
def closedSyllables : List (Nat × Nat) :=
  (List.range 399).map fun i => (0xac00 + 28 * i + 1, 0xac00 + 28 * i + 27)

/-- The spacing marks that extend nothing, and two vowel signs that do. -/
def spacingMarks : List (Nat × Nat) :=
  symmetricDifference (difference (categoryRanges "Mc") graphemeExtend)
    (rangesOfText
      ["E33 EB3 102B-102C 1038 1062-1064 1067-106D 1083 1087-108C 108F 109A-109C 1A61 1A63-1A64",
       "AA7B AA7D 11720-11721"])

/-- The characters that belong to the one behind them. -/
def prepended : List (Nat × Nat) :=
  union prependedConcatenationMark
    (rangesOfText ["D4E 111C2-111C3 113D1 1193F 11941 11A3A 11A84-11A89 11D46 11F02"])

/-- The classes that divide a text into characters as a reader sees them. -/
def graphemeBreaks : List (List String × List (Nat × Nat)) :=
  [(["CR"], carriageReturn),
    (["LF"], lineFeed),
    (["CN", "Control"],
      difference
        (union (categoriesRanges ["Cc", "Cf", "Zl", "Zp"])
          (inter (categoryRanges "Cn") defaultIgnorable))
        (normalize (carriageReturn ++ lineFeed ++ zeroWidthJoiner ++ prepended ++
          graphemeExtend))),
    (["EX", "Extend"], union graphemeExtend emojiModifier),
    (["L"], rangesOfText ["1100-115F A960-A97C"]),
    (["LV"], openSyllables),
    (["LVT"], closedSyllables),
    (["PP", "Prepend"], prepended),
    (["RI", "Regional_Indicator"], regionalIndicator),
    (["SM", "SpacingMark"], spacingMarks),
    (["T"], rangesOfText ["11A8-11FF D7CB-D7FB"]),
    (["V"], rangesOfText ["1160-11A7 D7B0-D7C6 16D63 16D67-16D6A"]),
    (["ZWJ"], zeroWidthJoiner)]

/-- The marks that words and sentences ignore. -/
def wordExtend : List (Nat × Nat) :=
  normalize (graphemeExtend ++ categoryRanges "Mc" ++ emojiModifier)

/-- The characters of the class of Katakana in words. -/
def wordKatakana : List (Nat × Nat) :=
  rangesOfText
  ["3031-3035 309B-309C 30A0-30FA 30FC-30FF 31F0-31FF 32D0-32FE 3300-3357 FF66-FF9D 1AFF0-1AFF3",
   "1AFF5-1AFFB 1AFFD-1AFFE 1B000 1B120-1B122 1B155 1B164-1B167"]

/-- The letters of Hebrew. -/
def hebrewLetter : List (Nat × Nat) :=
  inter (normalize (scriptRanges "Hebr")) (normalize (categoryRanges "Lo"))

/-- The letters of the scripts that write words without blanks between them. -/
def undividedLetters : List (Nat × Nat) :=
  normalize (["Hira", "Thai", "Laoo", "Mymr", "Khmr", "Tale", "Talu", "Lana", "Tavt",
    "Ahom"].flatMap scriptRanges)

/-- The letters of words. -/
def wordLetter : List (Nat × Nat) :=
  union
    (difference alphabetic
      (normalize (ideographic ++ wordKatakana ++ hebrewLetter ++ wordExtend ++ undividedLetters)))
    (rangesOfText
      ["2C2-2C5 2D2-2D7 2DE-2DF 2E5-2EB 2ED 2EF-2FF 55A-55C 55E 58A 5F3 A708-A716 A720-A721",
       "A789-A78A AB5B"])

/-- The formats that words and sentences ignore. -/
def ignoredFormats : List (Nat × Nat) :=
  difference (normalize (categoryRanges "Cf")) (rangesOfText ["200C-200D E0020-E007F"])

/-- The classes that divide a text into words. -/
def wordBreaks : List (List String × List (Nat × Nat)) :=
  [(["LE", "ALetter"], wordLetter),
    (["CR"], carriageReturn),
    (["DQ", "Double_Quote"], [(0x22, 0x22)]),
    (["Extend"], wordExtend),
    (["EX", "ExtendNumLet"], union (categoryRanges "Pc") [(0x202f, 0x202f)]),
    (["FO", "Format"], difference ignoredFormats [(0x200b, 0x200b)]),
    (["HL", "Hebrew_Letter"], hebrewLetter),
    (["KA", "Katakana"], wordKatakana),
    (["LF"], lineFeed),
    (["ML", "MidLetter"], midLetter),
    (["MN", "MidNum"], midNum),
    (["MB", "MidNumLet"], midNumLet),
    (["NL", "Newline"], rangesOfText ["B-C 85 2028-2029"]),
    (["NU", "Numeric"], union decimal [(0x66b, 0x66b)]),
    (["RI", "Regional_Indicator"], regionalIndicator),
    (["SQ", "Single_Quote"], [(0x27, 0x27)]),
    (["WSegSpace"], rangesOfText ["20 1680 2000-2006 2008-200A 205F 3000"]),
    (["ZWJ"], zeroWidthJoiner)]

/-- The marks that sentences ignore. -/
def sentenceExtend : List (Nat × Nat) :=
  normalize (graphemeExtend ++ categoryRanges "Mc" ++ zeroWidthJoiner)

/-- The small letters of sentences. -/
def sentenceLower : List (Nat × Nat) :=
  difference lowercase (union sentenceExtend (rangesOfText ["10D0-10FA 10FD-10FF"]))

/-- The capital letters of sentences. -/
def sentenceUpper : List (Nat × Nat) :=
  difference (union (categoryRanges "Lt") uppercase)
    (union sentenceExtend (rangesOfText ["1C90-1CBA 1CBD-1CBF"]))

/-- The classes that divide a text into sentences. -/
def sentenceBreaks : List (List String × List (Nat × Nat)) :=
  [(["AT", "ATerm"], fullStop),
    (["CL", "Close"],
      union (categoriesRanges ["Ps", "Pe", "Pi", "Pf"])
        (rangesOfText ["22 27 275B-2760 2E00-2E01 2E06-2E08 2E0B 1F676-1F678"])),
    (["CR"], carriageReturn),
    (["EX", "Extend"], sentenceExtend),
    (["FO", "Format"], ignoredFormats),
    (["LF"], lineFeed),
    (["LO", "Lower"], sentenceLower),
    (["NU", "Numeric"], union decimal [(0x66b, 0x66c)]),
    (["LE", "OLetter"],
      difference (union alphabetic [(0x5f3, 0x5f3)])
        (normalize (sentenceLower ++ sentenceUpper ++ sentenceExtend))),
    (["SC", "SContinue"], sentencePause),
    (["SE", "Sep"], rangesOfText ["85 2028-2029"]),
    (["SP", "Sp"], rangesOfText ["9 B-C 20 A0 1680 2000-200A 202F 205F 3000"]),
    (["ST", "STerm"], difference sentenceTerminal (normalize fullStop)),
    (["UP", "Upper"], sentenceUpper)]

end Guardrail.Unicode
