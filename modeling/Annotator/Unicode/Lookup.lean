import Annotator.Text.Blank
import Annotator.Unicode.Category
import Annotator.Unicode.Property
import Annotator.Unicode.Script

/-!
# Categories, scripts and binary properties by name

Names match loosely: case, blanks, underscores and hyphens do not count, nor does `is` in front.
-/

namespace Annotator.Unicode

/-- What a property name comes down to when it is matched loosely. Of the names that begin with `is`,
`isc` alone keeps it. -/
def looseName (name : String) : String :=
  let letters := name.toList
  let (is, rest) := match letters with
    | 'i' :: 's' :: r | 'i' :: 'S' :: r | 'I' :: 's' :: r | 'I' :: 'S' :: r => (true, r)
    | r => (false, r)
  let kept := (rest.filter fun c => c.toNat < 128 && c != ' ' && c != '_' && c != '-').map Char.toLower
  String.ofList (if is && kept == ['c'] then ['i', 's', 'c'] else kept)

/-- Whether one of the spellings is loosely `name`, which is given in its loose form. -/
def goesBy (spellings : List String) (name : String) : Bool :=
  spellings.any fun s => looseName s == name

namespace NamedRanges

/-- The code points under a loose name. -/
def find? (table : List NamedRanges) (name : String) : Option CodeSet :=
  (table.find? fun r => Unicode.goesBy r.names name).map (·.codes)

end NamedRanges

/-- The code points of a two-letter category that is in the table. -/
def basicCategory (short : String) : CodeSet :=
  (NamedRanges.find? basicCategories (looseName short)).getD []

/-- The code points that no other category has. -/
def unassigned : CodeSet :=
  (CodeSet.ofRanges (basicCategories.flatMap (·.codes))).complement

/-- The code points of a general category under a loose name. -/
def category? (name : String) : Option CodeSet :=
  if name == "any" then some CodeSet.all
  else if name == "assigned" then some unassigned.complement
  else if name == "ascii" then some [(0, 0x7F)]
  else if name == "cn" || name == "unassigned" then some unassigned
  else (NamedRanges.find? basicCategories name).or do
    let group ← categoryGroups.find? fun g => goesBy g.1 name
    return CodeSet.ofRanges (group.2.flatMap fun m =>
      if m == "Cn" then unassigned else basicCategory m)

/-- The code points of a script under a loose name. -/
def script? (name : String) : Option CodeSet :=
  NamedRanges.find? scripts name

/-- The code points that a script uses, under a loose name of the script. -/
def scriptExtension? (name : String) : Option CodeSet := do
  let s ← scripts.find? fun r => goesBy r.names name
  let part (table : List NamedRanges) : CodeSet :=
    ((table.find? fun r => r.names.any fun n => s.names.contains n).map (·.codes)).getD []
  return (s.codes.union (part scriptExtensions)).diff (part scriptLosses)

/-- The code points of a binary property under a loose name. -/
def binary? (name : String) : Option CodeSet :=
  if name == "whitespace" || name == "wspace" || name == "space" then some Text.blankRanges
  else NamedRanges.find? binaryProperties name

/-- The code points of a binary property that is in the table. -/
def binaryProperty (short : String) : CodeSet :=
  (NamedRanges.find? binaryProperties (looseName short)).getD []

/-! ## Classes of characters -/

/-- The decimal digits. -/
def digits : CodeSet := basicCategory "Nd"

/-- The letters and what counts as one. -/
def alphabetic : CodeSet := binaryProperty "Alphabetic"

/-- The marks that are written on or around the character before them. -/
def marks : CodeSet := (category? "m").getD []

/-- The characters that numbers are written with. -/
def numerals : CodeSet := (category? "n").getD []

/-- The characters that extend the one before them. -/
def graphemeExtend : CodeSet := binaryProperty "Grapheme_Extend"

/-- The characters of a word in a pattern: letters, marks, decimal digits, connecting punctuation and
joiners. -/
def wordChars : CodeSet :=
  CodeSet.ofRanges (alphabetic ++ marks ++ digits ++ basicCategory "Pc" ++
    binaryProperty "Join_Control")

end Annotator.Unicode
