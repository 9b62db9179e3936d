import Annotator.Error
import Annotator.Keyword
import Annotator.Text.Blank
import Annotator.Vocabulary

/-!
# Spacing

Putting a text into regular spacing: one space on each side of every operator, spelled as the grammar
spells it, one space in place of every run of spaces and tabs, one kind of line break, and no blanks
at either end.
-/

namespace Annotator

/-- The operators that are respaced, in order, and a line length that is kept for whoever asks. -/
structure Spacing where
  operators : List String
  maxLineLength : Nat
  deriving Repr, DecidableEq

namespace Spacing

/-- The line length when none is given. -/
def defaultLineLength : Nat := 80

/-- The keyword that stands for an operator. -/
def keyword (operator : String) : Keyword := ⟨operator.toList, false, true⟩

/-- The form of any number of blanks. -/
def anyBlanks : Pattern.Form := .ofRepetition 0 none true (.ofSet Text.blankRanges false)

/-- The forms that the pattern of an operator has, one after another: those of its keyword, and any
number of blanks on both sides of them. -/
def forms (operator : String) : List Pattern.Form :=
  anyBlanks :: ((keyword operator).forms ++ [anyBlanks])

/-- Whether an operator can be searched for with the blanks on both sides of it. -/
def isSearchable (operator : String) : Bool := Pattern.Form.areSearchable (forms operator)

/-- The length of a keyword and the blanks on both sides of it, when `k` of the blanks in front are
part of it. -/
def attempt (word : Keyword) (prev : Option Char) (text : List Char) (k : Nat) : Option Nat :=
  (word.front (Search.lastOf prev (text.take k)) (text.drop k)).map fun n =>
    k + n + ((text.drop (k + n)).takeWhile Text.isBlank).length

/-- The first attempt that succeeds, from `k` blanks in front down to none. -/
def attempts (word : Keyword) (prev : Option Char) (text : List Char) : Nat → Option Nat
  | 0 => attempt word prev text 0
  | k + 1 => (attempt word prev text (k + 1)).or (attempts word prev text k)

/-- The length of a keyword with the blanks on both sides of it, as many as there are. -/
def front (word : Keyword) (prev : Option Char) (text : List Char) : Option Nat :=
  attempts word prev text (text.takeWhile Text.isBlank).length

/-- The search for an operator with the blanks on both sides of it. -/
def search (operator : String) : Search := Search.ofFront (front (keyword operator))

/-- An operator between two spaces. -/
def padded (operator : String) : List Char := ' ' :: operator.toList ++ [' ']

/-- Puts one space on each side of every occurrence of an operator. -/
def respace (text : List Char) (operator : String) : List Char :=
  ((search operator).cut text).replace fun _ _ => padded operator

/-- The lines of a text; a line ends at a line feed, a carriage return, or both in turn. -/
def lines : List Char → List (List Char)
  | [] => [[]]
  | '\r' :: '\n' :: later => [] :: lines later
  | c :: later =>
    if c == '\n' || c == '\r' then [] :: lines later
    else match lines later with
      | [] => [[c]]
      | first :: others => (c :: first) :: others

/-- One space in place of every run of spaces and tabs; `was` tells whether a run is under way. -/
def collapseFrom (was : Bool) : List Char → List Char
  | [] => []
  | c :: later =>
    if c == ' ' || c == '\t' then
      if was then collapseFrom true later else ' ' :: collapseFrom true later
    else c :: collapseFrom false later

/-- One space in place of every run of spaces and tabs of a line. -/
def collapse (line : List Char) : List Char := collapseFrom false line

/-- The lines of a text with one space between what they hold, joined by line feeds. -/
def tidy (text : List Char) : List Char :=
  Text.trim (List.intercalate ['\n'] ((lines text).map collapse))

/-- The spacing for a vocabulary. An operator that cannot be searched for is an error. -/
def ofVocabulary (v : Vocabulary) (maxLineLength : Nat) : Except Error Spacing :=
  match v.operators.find? fun o => !isSearchable o with
  | some o => .error (.invalidPattern o)
  | none => .ok ⟨v.operators, maxLineLength⟩

/-- The text in regular spacing. -/
def prettify (s : Spacing) (text : List Char) : List Char :=
  if text = [] then [] else tidy (s.operators.foldl respace text)

end Spacing

end Annotator
