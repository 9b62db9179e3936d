import Annotator.Unicode.Lookup

/-!
# Where characters that a reader sees begin and end

The classes of code points that tell which of them make up one character for a reader. They are
given by other properties and by what is particular to some scripts.
-/

namespace Annotator.Unicode

/-- The classes of code points by which seen characters are found, the class of all others apart. -/
inductive GraphemeBreak where
  | carriageReturn
  | lineFeed
  /-- Nothing joins it. -/
  | control
  /-- It joins the character before it. -/
  | extend
  | joiner
  | regionalIndicator
  /-- It joins the character after it. -/
  | prepend
  /-- A mark with a width of its own. -/
  | spacingMark
  /-- A leading consonant of a Hangul syllable. -/
  | leading
  /-- A vowel of a Hangul syllable. -/
  | vowel
  /-- A trailing consonant of a Hangul syllable. -/
  | trailing
  /-- A syllable that ends in a vowel. -/
  | openSyllable
  /-- A syllable that ends in a consonant. -/
  | closedSyllable
  deriving Repr, DecidableEq

namespace GraphemeBreak

/-- All the classes. -/
def all : List GraphemeBreak :=
  [carriageReturn, lineFeed, control, extend, joiner, regionalIndicator, prepend, spacingMark,
   leading, vowel, trailing, openSyllable, closedSyllable]

/-- The spellings of the name of a class. -/
def names : GraphemeBreak → List String
  | carriageReturn => ["CR"]
  | lineFeed => ["LF"]
  | control => ["CN", "Control"]
  | extend => ["EX", "Extend"]
  | joiner => ["ZWJ"]
  | regionalIndicator => ["RI", "Regional_Indicator"]
  | prepend => ["PP", "Prepend"]
  | spacingMark => ["SM", "SpacingMark"]
  | leading => ["L"]
  | vowel => ["V"]
  | trailing => ["T"]
  | openSyllable => ["LV"]
  | closedSyllable => ["LVT"]

/-- The class under a loose name. -/
def ofName? (name : String) : Option GraphemeBreak :=
  all.find? fun k => goesBy k.names name

/-- The marks that join the character before them, and the tones of skin of an emoji. -/
def extending : CodeSet :=
  graphemeExtend.union (binaryProperty "Emoji_Modifier")

/-- The signs that are written before a number or a syllable. -/
def prepended : CodeSet :=
  (binaryProperty "Prepended_Concatenation_Mark").union
    (CodeSet.ofHex "D4E 111C2-111C3 113D1 1193F 11941 11A3A 11A84-11A89 11D46 11F02")

/-- The marks of Myanmar, Tai and Ahom letters that stand by themselves. -/
def separateMarks : CodeSet :=
  CodeSet.ofHex ("102B-102C 1038 1062-1064 1067-106D 1083 1087-108C 108F 109A-109C 1A61 " ++
    "1A63-1A64 AA7B AA7D 11720-11721")

/-- The Hangul syllables that end in a vowel: every twenty-eighth one. -/
def openSyllables : CodeSet :=
  (List.range 399).map fun k => (0xAC00 + 28 * k, 0xAC00 + 28 * k)

/-- The Hangul syllables that end in a consonant: those between. -/
def closedSyllables : CodeSet :=
  (List.range 399).map fun k => (0xAC01 + 28 * k, 0xAC1B + 28 * k)

/-- The code points of a class. -/
def codes : GraphemeBreak → CodeSet
  | carriageReturn => CodeSet.singleton 0xD
  | lineFeed => CodeSet.singleton 0xA
  | control =>
    let ignored := unassigned.inter (binaryProperty "Default_Ignorable_Code_Point")
    (CodeSet.ofRanges (basicCategory "Cc" ++ basicCategory "Cf" ++ basicCategory "Zl" ++
        basicCategory "Zp" ++ ignored)).diff
      (CodeSet.ofRanges (CodeSet.ofHex "A D 200D" ++ extending ++ prepended))
  | extend => extending
  | joiner => CodeSet.singleton 0x200D
  | regionalIndicator => binaryProperty "Regional_Indicator"
  | prepend => prepended
  | spacingMark =>
    ((basicCategory "Mc").union (CodeSet.ofHex "E33 EB3")).diff (extending.union separateMarks)
  | leading => CodeSet.ofHex "1100-115F A960-A97C"
  | vowel => CodeSet.ofHex "1160-11A7 D7B0-D7C6 16D63 16D67-16D6A"
  | trailing => CodeSet.ofHex "11A8-11FF D7CB-D7FB"
  | openSyllable => openSyllables
  | closedSyllable => closedSyllables

end GraphemeBreak

end Annotator.Unicode
