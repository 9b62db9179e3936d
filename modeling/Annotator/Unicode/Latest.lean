import Annotator.Unicode.Lookup

/-!
# Characters of the latest version

The tables of this library are those of Unicode 16.0, which patterns go by. Where single characters
are lowercased, quoted or allowed in the name of a group, the characters of Unicode 17.0 are known
too. What that version adds is small enough to be told as a difference.
-/

namespace Annotator.Unicode.Latest

/-! ## What Unicode 17.0 adds -/

/-- The new letters with case. -/
def newCased : CodeSet := CodeSet.ofHex "A7CE-A7CF A7D2 A7D4 A7F1 16EA0-16EB8 16EBB-16ED3"

/-- The new letters without case, syllables and ideographs included. -/
def newUncased : CodeSet :=
  ["88F C5C CDC 10940-10959 10EC5-10EC7 11DB0-11DDB 16FF2-16FF3 187F8-187FF 18D09-18D1E",
   "18D80-18DF2 1E6C0-1E6DE 1E6E0-1E6E2 1E6E4-1E6E5 1E6E7-1E6ED 1E6F0-1E6F4 1E6FE-1E6FF",
   "2B73A-2B73F 2CEA2-2CEAD 323B0-33479"].flatMap CodeSet.ofHex

/-- The new marks that belong to a letter. -/
def newVowels : CodeSet := CodeSet.ofHex "10EFA-10EFB 11B60-11B67 1E6E3 1E6E6 1E6EE-1E6EF 1E6F5"

/-- The new marks without width. -/
def newNonspacing : CodeSet :=
  CodeSet.ofHex ("1ACF-1ADD 1AE0-1AEB 10EFA-10EFB 11B60 11B62-11B64 11B66 1E6E3 1E6E6 " ++
    "1E6EE-1E6EF 1E6F5")

/-- The new letters that modify another. -/
def newModifiers : CodeSet := CodeSet.ofHex "A7F1 10EC5 11DD9 16FF2-16FF3 1E6FF"

/-- The new numerals. -/
def newNumerals : CodeSet := CodeSet.ofHex "11DE0-11DE9 16FF4-16FF6"

/-- The new symbols and marks of punctuation. -/
def newSymbols : CodeSet :=
  ["20C1 2B96 FBC3-FBD2 FD90-FD91 FDC8-FDCE 10ED0-10ED8 1CCFA-1CCFC 1CEBA-1CED0 1CEE0-1CEF0",
   "1F6D8 1F777-1F77A 1F8D0-1F8D8 1FA54-1FA57 1FA8A 1FA8E 1FAC8 1FACD 1FAEA 1FAEF",
   "1FBFA"].flatMap CodeSet.ofHex

/-! ## Classes of characters -/

/-- The characters with case. The pharyngeal fricative U+0295 is no longer one of them. -/
def cased : CodeSet :=
  ((binaryProperty "Cased").diff (CodeSet.singleton 0x295)).union newCased

/-- The characters that do not separate a letter from the word around it. -/
def caseIgnorable : CodeSet :=
  CodeSet.ofRanges (binaryProperty "Case_Ignorable" ++ newNonspacing ++ newModifiers)

/-- The letters and what counts as one. -/
def alphabetic : CodeSet :=
  CodeSet.ofRanges (Unicode.alphabetic ++ newCased ++ newUncased ++ newVowels ++
    CodeSet.ofHex "16FF4-16FF6")

/-- The letters, and the characters that numbers are written with. -/
def alphanumeric : CodeSet :=
  CodeSet.ofRanges (alphabetic ++ numerals ++ newNumerals)

/-- The marks that extend the character before them. -/
def extendingMarks : CodeSet :=
  (graphemeExtend.inter marks).union newNonspacing

/-- The characters that have no visible form of their own, the plain space apart: separators,
controls and unassigned code points, and those that are there to be left out. -/
def invisible : CodeSet :=
  let plain := CodeSet.ofRanges (((category? "c").getD []) ++ ((category? "z").getD []))
  let seen := CodeSet.ofRanges (CodeSet.singleton 0x20 ++ newCased ++ newUncased ++ newVowels ++
    newNonspacing ++ newNumerals ++ newSymbols)
  (plain.diff seen).union (binaryProperty "Default_Ignorable_Code_Point")

end Annotator.Unicode.Latest
