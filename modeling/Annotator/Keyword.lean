import Annotator.Pattern.Form
import Annotator.Scan
import Annotator.Text.Word

/-!
# Searching for keywords

A keyword is found where its characters stand in the text, as they are or up to case, and, if it is
bounded, where a word begins or ends at either end of it. A keyword whose pattern would take too much
memory cannot be searched for.
-/

namespace Annotator

/-- What is searched for: a literal text, whether the case of its letters counts, and whether it has
to be bounded at both ends. -/
structure Keyword where
  text : List Char
  exact : Bool
  bounded : Bool
  deriving Repr, DecidableEq

namespace Keyword

/-- The forms that the pattern of the keyword has, one after another. -/
def forms (k : Keyword) : List Pattern.Form :=
  let bound : List Pattern.Form := if k.bounded then [.look (.word .boundary false)] else []
  bound ++ (k.text.map (Pattern.Form.ofChar !k.exact) ++ bound)

/-- Whether the keyword can be searched for. -/
def isSearchable (k : Keyword) : Bool := Pattern.Form.areSearchable k.forms

/-- Whether a character of the text stands for one of the keyword. -/
def sameChar (k : Keyword) (a b : Char) : Bool :=
  if k.exact then a == b else Text.foldEq a b

/-- What follows some characters at the front of a text, if they stand there. -/
def strip (same : Char → Char → Bool) : List Char → List Char → Option (List Char)
  | [], text => some text
  | _ :: _, [] => none
  | a :: later, b :: text => if same a b then strip same later text else none

/-- The length of the keyword at the front of a text, if it stands there. -/
def front (k : Keyword) (prev : Option Char) (text : List Char) : Option Nat :=
  match strip k.sameChar k.text text with
  | none => none
  | some rest =>
    let last := Search.lastOf prev (text.take k.text.length)
    if !k.bounded || (Text.wordBoundary prev text.head? && Text.wordBoundary last rest.head?) then
      some k.text.length
    else none

/-- The search for the keyword. -/
def search (k : Keyword) : Search := Search.ofFront k.front

end Keyword

end Annotator
