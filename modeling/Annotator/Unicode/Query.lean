import Annotator.Unicode.Age
import Annotator.Unicode.GraphemeBreak
import Annotator.Unicode.SentenceBreak
import Annotator.Unicode.WordBreak

/-!
# Properties by name

Sets of code points by the names that patterns use for them: the name of a binary property, of a
category or of a script, or a property and one of its values.
-/

namespace Annotator.Unicode

/-- The code points that a version of Unicode assigns, under a loose name of the version: those that
are new in it and those of the versions before. -/
def age? (name : String) : Option CodeSet :=
  let before := ages.takeWhile fun r => !goesBy r.names name
  (ages[before.length]?).map fun r => CodeSet.ofRanges ((before ++ [r]).flatMap (·.codes))

/-- The loose names of properties that are not binary and that no other name takes precedence over. -/
def otherProperties : List String :=
  ["age", "bc", "bidiclass", "blk", "block", "bmg", "bidimirroringglyph", "bpb",
   "bidipairedbracket", "bpt", "bidipairedbrackettype", "casefolding", "ccc",
   "canonicalcombiningclass", "decompositionmapping", "decompositiontype", "dm", "dt", "ea",
   "eastasianwidth", "equideo", "equivalentunifiedideograph", "fcnfkc", "fcnfkcclosure", "gc",
   "gcb", "generalcategory", "graphemeclusterbreak", "hangulsyllabletype", "hst", "incb",
   "indicconjunctbreak", "indicpositionalcategory", "indicsyllabiccategory", "inpc", "insc", "isc",
   "isocomment", "jamoshortname", "jg", "joininggroup", "joiningtype", "jsn", "jt", "lb",
   "linebreak", "lowercasemapping", "na", "na1", "name", "namealias", "nfcqc", "nfcquickcheck",
   "nfdqc", "nfdquickcheck", "nfkccasefold", "nfkccf", "nfkcqc", "nfkcquickcheck",
   "nfkcsimplecasefold", "nfkcscf", "nfkdqc", "nfkdquickcheck", "nt", "numerictype",
   "numericvalue", "nv", "sb", "script", "scriptextensions", "scx", "sentencebreak", "sfc",
   "simplecasefolding", "simplelowercasemapping", "simpletitlecasemapping",
   "simpleuppercasemapping", "slc", "stc", "suc", "titlecasemapping", "tc", "uc",
   "unicode1name", "uppercasemapping", "verticalorientation", "vo", "wb", "wordbreak"]

/-- The code points under a single name: of a binary property, of a general category or of a script,
in this order. -/
def named? (name : String) : Option CodeSet :=
  let loose := looseName name
  if otherProperties.contains loose then none
  else (binary? loose).or ((category? loose).or (script? loose))

/-- The code points for which a property has a value, both given by name. -/
def valued? (property value : String) : Option CodeSet :=
  let loose := looseName value
  match looseName property with
  | "gc" | "generalcategory" => category? loose
  | "sc" | "script" => script? loose
  | "scx" | "scriptextensions" => scriptExtension? loose
  | "age" => age? loose
  | "gcb" | "graphemeclusterbreak" => (GraphemeBreak.ofName? loose).map (·.codes)
  | "wb" | "wordbreak" => (WordBreak.ofName? loose).map (·.codes)
  | "sb" | "sentencebreak" => (SentenceBreak.ofName? loose).map (·.codes)
  | _ => none

end Annotator.Unicode
