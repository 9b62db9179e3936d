import Annotator.Pattern.Tree
import Annotator.Text.Blank
import Annotator.Text.Digit

/-!
# Escapes

What a backslash and the characters after it stand for in a pattern. With the flag for extended
patterns, blanks and comments between the characters do not count.

A reader takes the text from where it stands and gives what it read with the rest of the text; `none`
means that the pattern is not well formed.
-/

namespace Annotator.Pattern

/-- A text without the blanks and comments in front; `comment` tells whether one has begun. -/
def skipFrom (comment : Bool) : List Char → List Char
  | [] => []
  | c :: later =>
    if comment then skipFrom (c != '\n') later
    else if Text.isBlank c then skipFrom false later
    else if c == '#' then skipFrom true later
    else c :: later

/-- A text from its first character that counts. -/
def skip (extended : Bool) (text : List Char) : List Char :=
  if extended then skipFrom false text else text

theorem length_skipFrom_le (comment : Bool) (text : List Char) :
    (skipFrom comment text).length ≤ text.length := by
  induction text generalizing comment with
  | nil => simp [skipFrom]
  | cons c later ih =>
    simp only [skipFrom]
    split
    · exact Nat.le_succ_of_le (ih _)
    · split
      · exact Nat.le_succ_of_le (ih _)
      · split
        · exact Nat.le_succ_of_le (ih _)
        · exact Nat.le_refl _

theorem length_skip_le (extended : Bool) (text : List Char) :
    (skip extended text).length ≤ text.length := by
  unfold skip
  split
  · exact length_skipFrom_le _ _
  · exact Nat.le_refl _

/-- What an escape stands for. -/
inductive Escape where
  | literal (l : Literal)
  | assertion (a : Assertion)
  | shorthand (negated : Bool) (kind : Shorthand)
  | property (negated : Bool) (query : PropertyQuery)
  deriving Repr

/-- The characters that have a meaning of their own in some place of a pattern. -/
def metaChars : List Char := "\\.+*?()|[]\x7b\x7d^$#&-~".toList

/-- Whether a character may be escaped without need: all ASCII characters but letters, digits and
angle brackets. -/
def isEscapable (c : Char) : Bool :=
  metaChars.contains c || (c.toNat < 128 && !c.isAlphanum && c != '<' && c != '>')

/-- Reads a number of hexadecimal digits. -/
def hexFixed (extended : Bool) : Nat → Nat → List Char → Option (Nat × List Char)
  | 0, value, text => some (value, text)
  | _ + 1, _, [] => none
  | n + 1, value, c :: later => do
    let d ← Text.hexDigit? c
    hexFixed extended n (16 * value + d) (skip extended later)

/-- Reads hexadecimal digits up to a closing brace. -/
def hexBraced (extended : Bool) (value : Option Nat) : List Char → Option (Nat × List Char)
  | [] => none
  | c :: later =>
    if c == '}' then value.map fun v => (v, skip extended later)
    else do
      let d ← Text.hexDigit? c
      hexBraced extended (some (16 * value.getD 0 + d)) (skip extended later)
  termination_by text => text.length
  decreasing_by
    have := length_skip_le extended later
    simp only [List.length_cons]
    omega

/-- Reads the hexadecimal code point after `x`, `u` or `U`: in braces, or in as many digits as
`digits` says. -/
def hexLiteral (extended : Bool) (digits : Nat) (text : List Char) :
    Option (Literal × List Char) := do
  match skip extended text with
  | '{' :: later =>
    let (code, rest) ← hexBraced extended none (skip extended later)
    return (⟨← Text.charOf? code, false⟩, rest)
  | text =>
    let (code, rest) ← hexFixed extended digits 0 text
    return (⟨← Text.charOf? code, digits == 2⟩, rest)

/-- Reads the name of a property up to a closing brace. -/
def nameBraced (extended : Bool) (name : List Char) : List Char → Option (List Char × List Char)
  | [] => none
  | c :: later =>
    if c == '}' then some (name.reverse, later)
    else nameBraced extended (c :: name) (skip extended later)
  termination_by text => text.length
  decreasing_by
    have := length_skip_le extended later
    simp only [List.length_cons]
    omega

/-- The parts of a text before and after the first occurrence of a mark. -/
def splitAt? (mark : List Char) : List Char → Option (List Char × List Char)
  | [] => none
  | c :: later =>
    if mark.isPrefixOf (c :: later) then some ([], (c :: later).drop mark.length)
    else (splitAt? mark later).map fun (a, b) => (c :: a, b)

/-- The query that the text in the braces of a property is, and whether it is a negated one. -/
def queryOf (name : List Char) : Bool × PropertyQuery :=
  let valued (parts : List Char × List Char) : PropertyQuery :=
    .valued (String.ofList parts.1) (String.ofList parts.2)
  match splitAt? ['!', '='] name with
  | some parts => (true, valued parts)
  | none =>
    match (splitAt? [':'] name).or (splitAt? ['='] name) with
    | some parts => (false, valued parts)
    | none => (false, .named (String.ofList name))

/-- Reads the property after `p` or `P`. -/
def propertyEscape (extended negated : Bool) (text : List Char) : Option (Escape × List Char) := do
  match skip extended text with
  | [] => none
  | '\\' :: _ => none
  | '{' :: later =>
    let (name, rest) ← nameBraced extended [] (skip extended later)
    let (differs, query) := queryOf name
    return (.property (negated != differs) query, rest)
  | c :: later =>
    return (.property negated (.named (String.singleton c)), skip extended later)

/-- Whether a character can stand in the name of a special word boundary. -/
def isBoundaryChar (c : Char) : Bool := c.isAlpha || c == '-'

/-- Reads the name of a special word boundary and the closing brace after it. -/
def boundaryName (extended : Bool) (name : List Char) : List Char → Option (String × List Char)
  | [] => none
  | c :: later =>
    if isBoundaryChar c then boundaryName extended (c :: name) (skip extended later)
    else if c == '}' then some (String.ofList name.reverse, later)
    else none
  termination_by text => text.length
  decreasing_by
    have := length_skip_le extended later
    simp only [List.length_cons]
    omega

/-- The special word boundary with a name. -/
def specialBoundary? : String → Option Assertion
  | "start" => some .wordStart
  | "end" => some .wordEnd
  | "start-half" => some .wordStartHalf
  | "end-half" => some .wordEndHalf
  | _ => none

/-- Reads what follows `b`: a special word boundary in braces, or nothing. Braces with something
other than a name are left to stand for a repetition. -/
def boundaryEscape (extended : Bool) (text : List Char) : Option (Escape × List Char) := do
  match text with
  | '{' :: later =>
    match skip extended later with
    | [] => none
    | c :: rest =>
      if isBoundaryChar c then
        let (name, rest) ← boundaryName extended [] (c :: rest)
        return (.assertion (← specialBoundary? name), rest)
      else return (.assertion .wordBoundary, text)
  | _ => return (.assertion .wordBoundary, text)

/-- Reads an escape, after its backslash. -/
def escape? (extended : Bool) : List Char → Option (Escape × List Char)
  | [] => none
  | c :: later =>
    let char (d : Char) : Option (Escape × List Char) := some (.literal ⟨d, false⟩, later)
    let assertion (a : Assertion) : Option (Escape × List Char) := some (.assertion a, later)
    match c with
    | 'x' => (hexLiteral extended 2 later).map fun (l, rest) => (.literal l, rest)
    | 'u' => (hexLiteral extended 4 later).map fun (l, rest) => (.literal l, rest)
    | 'U' => (hexLiteral extended 8 later).map fun (l, rest) => (.literal l, rest)
    | 'p' => propertyEscape extended false later
    | 'P' => propertyEscape extended true later
    | 'd' => some (.shorthand false .digit, later)
    | 'D' => some (.shorthand true .digit, later)
    | 's' => some (.shorthand false .space, later)
    | 'S' => some (.shorthand true .space, later)
    | 'w' => some (.shorthand false .word, later)
    | 'W' => some (.shorthand true .word, later)
    | 'a' => char '\x07'
    | 'f' => char '\x0c'
    | 't' => char '\t'
    | 'n' => char '\n'
    | 'r' => char '\r'
    | 'v' => char '\x0b'
    | 'A' => assertion .textStart
    | 'z' => assertion .textEnd
    | 'b' => boundaryEscape extended later
    | 'B' => assertion .notWordBoundary
    | '<' => assertion .wordStart
    | '>' => assertion .wordEnd
    | c => if isEscapable c then char c else none

end Annotator.Pattern
