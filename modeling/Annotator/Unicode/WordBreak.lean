import Annotator.Unicode.Lookup

/-!
# Where words begin and end

The classes of code points by which the words of a text are found. They are given by other
properties and by lists of signs. Letters of scripts that are written without blanks and need a
dictionary are in no class.
-/

namespace Annotator.Unicode

/-- The signs that are written before a number and belong to it. -/
def numberSigns : CodeSet := CodeSet.ofHex "600-605 6DD 890-891 8E2 110BD 110CD"

/-- The letters of South East Asian scripts whose words only a dictionary tells apart. -/
def dictionaryLetters : CodeSet :=
  ["E01-E30 E32-E33 E40-E46 E81-E82 E84 E86-E8A E8C-EA3 EA5 EA7-EB0 EB2-EB3 EBD EC0-EC4 EC6",
   "EDC-EDF 1000-102A 103F 1050-1055 105A-105D 1061 1065-1066 106E-1070 1075-1081 108E 1780-17B3",
   "17D7 17DC 1950-196D 1970-1974 1980-19AB 19B0-19C9 1A20-1A54 1AA7 A9E0-A9E4 A9E6-A9EF",
   "A9FA-A9FE AA60-AA76 AA7A AA7E-AAAF AAB1 AAB5-AAB6 AAB9-AABD AAC0 AAC2 AADB-AADD",
   "11700-1171A 11740-11746"].flatMap CodeSet.ofHex

/-- The classes of code points by which words are found, the class of all others apart. -/
inductive WordBreak where
  | carriageReturn
  | lineFeed
  | newline
  /-- It joins the character before it. -/
  | extend
  | joiner
  | format
  | regionalIndicator
  | letter
  | hebrewLetter
  | katakana
  | numeric
  | singleQuote
  | doubleQuote
  /-- It joins letters on either side. -/
  | midLetter
  /-- It joins digits on either side. -/
  | midNumber
  /-- It joins letters or digits on either side. -/
  | midNumberLetter
  /-- It joins what is next to it. -/
  | extendNumberLetter
  | space
  deriving Repr, DecidableEq

namespace WordBreak

/-- All the classes. -/
def all : List WordBreak :=
  [carriageReturn, lineFeed, newline, extend, joiner, format, regionalIndicator, letter,
   hebrewLetter, katakana, numeric, singleQuote, doubleQuote, midLetter, midNumber, midNumberLetter,
   extendNumberLetter, space]

/-- The spellings of the name of a class. -/
def names : WordBreak → List String
  | carriageReturn => ["CR"]
  | lineFeed => ["LF"]
  | newline => ["NL", "Newline"]
  | extend => ["Extend"]
  | joiner => ["ZWJ"]
  | format => ["FO", "Format"]
  | regionalIndicator => ["RI", "Regional_Indicator"]
  | letter => ["LE", "ALetter"]
  | hebrewLetter => ["HL", "Hebrew_Letter"]
  | katakana => ["KA", "Katakana"]
  | numeric => ["NU", "Numeric"]
  | singleQuote => ["SQ", "Single_Quote"]
  | doubleQuote => ["DQ", "Double_Quote"]
  | midLetter => ["ML", "MidLetter"]
  | midNumber => ["MN", "MidNum"]
  | midNumberLetter => ["MB", "MidNumLet"]
  | extendNumberLetter => ["EX", "ExtendNumLet"]
  | space => ["WSegSpace"]

/-- The class under a loose name. -/
def ofName? (name : String) : Option WordBreak :=
  all.find? fun k => goesBy k.names name

/-- The marks, and the tones of skin of an emoji. -/
def extending : CodeSet :=
  CodeSet.ofRanges (graphemeExtend ++ basicCategory "Mc" ++ binaryProperty "Emoji_Modifier")

/-- The letters that are in a class of their own. -/
def hebrewLetters : CodeSet :=
  ((script? "hebrew").getD []).inter (basicCategory "Lo")

/-- The letters and signs of Katakana. -/
def katakanaLetters : CodeSet :=
  ((script? "katakana").getD []).union (CodeSet.ofHex "3031-3035 309B-309C 30A0 30FC FF70")

/-- The signs that count as letters of a word though they are none. -/
def letterSigns : CodeSet :=
  CodeSet.ofHex ("B8 2C2-2C5 2D2-2D7 2DE-2DF 2E5-2EB 2ED 2EF-2FF 55A-55C 55E 58A 5F3 70F " ++
    "A708-A716 A720-A721 A789-A78A AB5B")

/-- The code points of a class. -/
def codes : WordBreak → CodeSet
  | carriageReturn => CodeSet.singleton 0xD
  | lineFeed => CodeSet.singleton 0xA
  | newline => CodeSet.ofHex "B-C 85 2028-2029"
  | extend => extending
  | joiner => CodeSet.singleton 0x200D
  | format =>
    (basicCategory "Cf").diff
      (CodeSet.ofRanges (CodeSet.ofHex "70F 200B-200D" ++ extending ++ numberSigns))
  | regionalIndicator => binaryProperty "Regional_Indicator"
  | letter =>
    (alphabetic.union letterSigns).diff
      (CodeSet.ofRanges (binaryProperty "Ideographic" ++ ((script? "hiragana").getD []) ++
        dictionaryLetters ++ extending ++ hebrewLetters ++ katakanaLetters))
  | hebrewLetter => hebrewLetters
  | katakana => katakanaLetters
  | numeric => CodeSet.ofRanges (digits ++ CodeSet.singleton 0x66B ++ numberSigns)
  | singleQuote => CodeSet.singleton 0x27
  | doubleQuote => CodeSet.singleton 0x22
  | midLetter => CodeSet.ofHex "3A B7 387 55F 5F4 2027 FE13 FE55 FF1A"
  | midNumber => CodeSet.ofHex "2C 3B 37E 589 60C-60D 66C 7F8 2044 FE10 FE14 FE50 FE54 FF0C FF1B"
  | midNumberLetter => CodeSet.ofHex "2E 2018-2019 2024 FE52 FF07 FF0E"
  | extendNumberLetter => (basicCategory "Pc").union (CodeSet.singleton 0x202F)
  | space => (basicCategory "Zs").diff (CodeSet.ofHex "A0 2007 202F")

end WordBreak

end Annotator.Unicode
