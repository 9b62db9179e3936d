import Annotator.Unicode.WordBreak

/-!
# Where sentences begin and end

The classes of code points by which the sentences of a text are found, given by other properties and
by lists of signs.
-/

namespace Annotator.Unicode

/-- The classes of code points by which sentences are found, the class of all others apart. -/
inductive SentenceBreak where
  | carriageReturn
  | lineFeed
  /-- It ends a paragraph. -/
  | separator
  /-- It joins the character before it. -/
  | extend
  | format
  | space
  | lower
  | upper
  /-- A letter without case. -/
  | otherLetter
  | numeric
  /-- A full stop, which may also belong to an abbreviation. -/
  | stop
  /-- A sign with which a sentence goes on. -/
  | continuation
  /-- A sign that ends a sentence. -/
  | terminal
  /-- A bracket or a quote. -/
  | close
  deriving Repr, DecidableEq

namespace SentenceBreak

/-- All the classes. -/
def all : List SentenceBreak :=
  [carriageReturn, lineFeed, separator, extend, format, space, lower, upper, otherLetter, numeric,
   stop, continuation, terminal, close]

/-- The spellings of the name of a class. -/
def names : SentenceBreak → List String
  | carriageReturn => ["CR"]
  | lineFeed => ["LF"]
  | separator => ["SE", "Sep"]
  | extend => ["EX", "Extend"]
  | format => ["FO", "Format"]
  | space => ["SP", "Sp"]
  | lower => ["LO", "Lower"]
  | upper => ["UP", "Upper"]
  | otherLetter => ["LE", "OLetter"]
  | numeric => ["NU", "Numeric"]
  | stop => ["AT", "ATerm"]
  | continuation => ["SC", "SContinue"]
  | terminal => ["ST", "STerm"]
  | close => ["CL", "Close"]

/-- The class under a loose name. -/
def ofName? (name : String) : Option SentenceBreak :=
  all.find? fun k => goesBy k.names name

/-- The marks, and what joins two characters. -/
def extending : CodeSet :=
  CodeSet.ofRanges (graphemeExtend ++ basicCategory "Mc" ++ CodeSet.singleton 0x200D)

/-- The small letters. Those of Georgian do not count: its sentences do not begin with a capital. -/
def lowerLetters : CodeSet :=
  (binaryProperty "Lowercase").diff
    (graphemeExtend.union (CodeSet.ofHex "10D0-10FA 10FD-10FF"))

/-- The capital letters, those of Georgian apart. -/
def upperLetters : CodeSet :=
  ((binaryProperty "Uppercase").union (basicCategory "Lt")).diff
    (CodeSet.ofHex "1C90-1CBA 1CBD-1CBF")

/-- Full stops in all their forms. -/
def stops : CodeSet := CodeSet.ofHex "2E 2024 FE52 FF0E"

/-- The code points of a class. -/
def codes : SentenceBreak → CodeSet
  | carriageReturn => CodeSet.singleton 0xD
  | lineFeed => CodeSet.singleton 0xA
  | separator => CodeSet.ofHex "85 2028-2029"
  | extend => extending
  | format => (basicCategory "Cf").diff (extending.union numberSigns)
  | space => CodeSet.diff Text.blankRanges (CodeSet.ofHex "A D 85 2028-2029")
  | lower => lowerLetters
  | upper => upperLetters
  | otherLetter =>
    (alphabetic.union (CodeSet.singleton 0x5F3)).diff
      (CodeSet.ofRanges (lowerLetters ++ upperLetters ++ extending))
  | numeric => CodeSet.ofRanges (digits ++ CodeSet.ofHex "66B-66C" ++ numberSigns)
  | stop => stops
  | continuation =>
    CodeSet.ofHex ("2C-2D 3A-3B 37E 55D 60C-60D 7F8 1802 1808 2013-2014 3001 FE10-FE11 " ++
      "FE13-FE14 FE31-FE32 FE50-FE51 FE54-FE55 FE58 FE63 FF0C-FF0D FF1A-FF1B FF64")
  | terminal => (binaryProperty "Sentence_Terminal").diff stops
  | close =>
    CodeSet.ofRanges (basicCategory "Ps" ++ basicCategory "Pe" ++ basicCategory "Pi" ++
      basicCategory "Pf" ++ CodeSet.ofHex "22 27 275B-2760 2E00-2E01 2E06-2E08 2E0B 1F676-1F678")

end SentenceBreak

end Annotator.Unicode
