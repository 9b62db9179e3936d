import Annotator.Keyword
import Annotator.Text.Blank
import Annotator.Vocabulary

/-!
# Identifiers

The names that an expression uses: what is left of it when string literals, times, numbers and known
words are deleted, and that has the form of a name.
-/

namespace Annotator.Identifiers

/-- Finds a string literal: what stands between two single quotes. -/
def stringFront (_ : Option Char) : List Char → Option Nat
  | '\'' :: later =>
    let inner := later.takeWhile (· != '\'')
    if inner.length = later.length then none else some (inner.length + 2)
  | _ => none

/-- Whether characters of some kinds stand at the front of a text, one of each kind in turn. -/
def hasShape : List (Char → Bool) → List Char → Bool
  | [], _ => true
  | _ :: _, [] => false
  | p :: shape, c :: later => p c && hasShape shape later

/-- Some digits. -/
def digits (n : Nat) : List (Char → Bool) := List.replicate n Char.isDigit

/-- The kinds of the characters of a point in time, as in `2022-12-01T08:30:00.000Z`. -/
def timeShape : List (Char → Bool) :=
  digits 4 ++ [(· == '-')] ++ digits 2 ++ [(· == '-')] ++ digits 2 ++ [(· == 'T')] ++
  digits 2 ++ [(· == ':')] ++ digits 2 ++ [(· == ':')] ++ digits 2 ++ [(· == '.')] ++
  digits 3 ++ [(· == 'Z')]

/-- Finds a point in time. -/
def timeFront (_ : Option Char) (text : List Char) : Option Nat :=
  if hasShape timeShape text then some timeShape.length else none

/-- The lengths that a number at the front of a text may have, the preferred one first: digits, a
point and digits; digits and a point; digits alone. -/
def numberLengths (text : List Char) : List Nat :=
  let whole := (text.takeWhile Char.isDigit).length
  if whole = 0 then [] else
    match text.drop whole with
    | '.' :: later => [whole + 1 + (later.takeWhile Char.isDigit).length, whole + 1, whole]
    | _ => [whole]

/-- Finds a number that is bounded like a word at both ends. -/
def numberFront (prev : Option Char) (text : List Char) : Option Nat :=
  if Text.wordBoundary prev text.head? then
    (numberLengths text).find? fun n =>
      Text.wordBoundary (Search.lastOf prev (text.take n)) (text.drop n).head?
  else none

/-- The text without the hits of a search. -/
def delete (s : Search) (text : List Char) : List Char :=
  (s.cut text).replace fun _ _ => []

/-- The text without literals: strings first, then times, then numbers. -/
def withoutLiterals (text : List Char) : List Char :=
  delete (Search.ofFront numberFront)
    (delete (Search.ofFront timeFront) (delete (Search.ofFront stringFront) text))

/-- The keyword that stands for a known word. -/
def keyword (word : String) : Keyword := ⟨word.toList, false, true⟩

/-- The known words in the order in which they are deleted. -/
def knownWords (v : Vocabulary) : List String :=
  v.operators ++ v.functions ++ v.booleans ++ v.customKeywords

/-- The text without known words. -/
def withoutWords (words : List String) (text : List Char) : List Char :=
  words.foldl (fun t w => delete (keyword w).search t) text

/-- Whether a character stands between names. -/
def isSeparator (c : Char) : Bool := Text.isBlank c || c == '(' || c == ')'

/-- The runs of characters between separators, some of which may be empty. -/
def fields : List Char → List (List Char)
  | [] => [[]]
  | c :: later =>
    if isSeparator c then [] :: fields later
    else match fields later with
      | [] => [[c]]
      | first :: others => (c :: first) :: others

/-- Whether a text has the form of a name: an ASCII letter, then ASCII letters, digits and
underscores. -/
def isName : List Char → Bool
  | [] => false
  | c :: later => c.isAlpha && later.all Text.isWord

/-- The names of an expression, each once, in the order in which they first appear. There are none if
some known word cannot be searched for. -/
def extract (v : Vocabulary) (text : List Char) : List String :=
  let words := knownWords v
  if text = [] || words.any fun w => !(keyword w).isSearchable then []
  else
    (((fields (withoutWords words (withoutLiterals text))).filter isName).map String.ofList).eraseDups

end Annotator.Identifiers
