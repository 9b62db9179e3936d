import Annotator.Scan
import Annotator.Text.Lowercase

/-!
# Class names

The display class of a type: its name in lower case, with a hyphen where a capital follows a small
letter or a digit, behind the common start of all display classes.
-/

namespace Annotator.ClassName

/-- A small ASCII letter or an ASCII digit. -/
def isSmall (c : Char) : Bool := c.isLower || c.isDigit

/-- Finds a small letter or digit with a capital after it. -/
def humpFront (_ : Option Char) : List Char → Option Nat
  | a :: b :: _ => if isSmall a && b.isUpper then some 2 else none
  | _ => none

/-- The search for a small letter or digit with a capital after it. -/
def hump : Search := Search.ofFront humpFront

/-- Puts a hyphen behind the first character of a hump. -/
def split (matched : List Char) (_ : List (Option (List Char))) : List Char :=
  matched.take 1 ++ '-' :: matched.drop 1

/-- A name in lower case with hyphens between its words. -/
def kebab (name : List Char) : List Char :=
  Text.lowercase ((hump.cut name).replace split)

/-- A name in lower case with hyphens between its words. -/
def kebabString (name : String) : String := String.ofList (kebab name.toList)

/-- What every display class begins with. -/
def start : String := "rcse-"

/-- The display class of a type. -/
def ofType (typeName : String) : String := start ++ kebabString typeName

/-- The display class of a type without a style. -/
def unknown : String := "rcse-unknown"

end Annotator.ClassName
