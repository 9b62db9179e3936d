import Annotator.Path
import Annotator.Text.Blank
import Annotator.Text.Digit

/-!
# Settings

The settings file: lines of the form `key = value`, and comments that begin with `#`. A line that
cannot be used changes nothing, and of several lines for one key the last usable one counts.
-/

namespace Annotator

/-- What the settings file can set. -/
structure Settings where
  grammar : Option String
  maxLineLength : Nat
  generateCss : Bool
  deriving Repr, DecidableEq

/-- What one line of the settings file says. -/
inductive Setting where
  | grammar (path : String)
  | maxLineLength (n : Nat)
  | generateCss (on : Bool)
  deriving Repr, DecidableEq

namespace Setting

/-- The least and the greatest line length. -/
def lineLengths : Nat × Nat := (20, 400)

/-- A truth value in one of its spellings, in small letters. -/
def switch? (word : String) : Option Bool :=
  if ["on", "true", "yes", "1"].contains word then some true
  else if ["off", "false", "no", "0"].contains word then some false
  else none

/-- A text with its ASCII capitals as small letters. -/
def small (text : List Char) : String := String.ofList (text.map Char.toLower)

/-- The setting of a key, if the value can be used. -/
def ofKey? (key : String) (value : List Char) : Option Setting :=
  match key with
  | "grammar" => if value = [] then none else some (grammar (String.ofList value))
  | "max-line-length" =>
    (Text.size? value).map fun n => maxLineLength (max lineLengths.1 (min n lineLengths.2))
  | "generate-css" => (switch? (small value)).map generateCss
  | _ => none

/-- The parts of a line before and after its first equals sign. -/
def halves? (line : List Char) : Option (List Char × List Char) :=
  match line.dropWhile (· != '=') with
  | [] => none
  | _ :: value => some (line.takeWhile (· != '='), value)

/-- What a line says, if it can be used. -/
def ofLine? (line : List Char) : Option Setting :=
  let line := Text.trim line
  match line with
  | [] => none
  | '#' :: _ => none
  | _ => do
    let (key, value) ← halves? line
    ofKey? (small (Text.trim key)) (Text.trim value)

end Setting

namespace Settings

/-- The settings when nothing is set. -/
def default : Settings := ⟨none, 80, false⟩

/-- The settings after one more line. -/
def apply (s : Settings) : Setting → Settings
  | .grammar path => { s with grammar := some path }
  | .maxLineLength n => { s with maxLineLength := n }
  | .generateCss on => { s with generateCss := on }

/-- The lines of a file. -/
def linesOf : List Char → List (List Char)
  | [] => [[]]
  | c :: later =>
    if c == '\n' then [] :: linesOf later
    else match linesOf later with
      | [] => [[c]]
      | first :: others => (c :: first) :: others

/-- The settings of a file. -/
def ofContents (contents : List Char) : Settings :=
  ((linesOf contents).filterMap Setting.ofLine?).foldl apply default

/-- The name of the settings file in a home directory. -/
def fileName : String := ".rcse.conf"

/-- The variables of the environment that tell where the settings file is. -/
def environmentNames : List String := ["RCSE_CONFIG", "HOME", "USERPROFILE"]

/-- The path of the settings file, given the variables of the environment: the one that is named, or
the one in the home directory. -/
def path? (environment : String → Option String) : Option String :=
  (environment "RCSE_CONFIG").or
    (((environment "HOME").or (environment "USERPROFILE")).map (Path.inDirectory · fileName))

end Settings

end Annotator
