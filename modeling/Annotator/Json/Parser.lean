import Annotator.Json.NumberText
import Annotator.Text.Digit

/-!
# Reading JSON texts

The value of a JSON text. A text has one value with blanks around it; arrays and objects may be nested
127 deep; escapes of surrogates come in pairs; of two fields with one key the later counts.
-/

namespace Annotator.Json

/-- The blanks of a JSON text. -/
def isBlank (c : Char) : Bool :=
  c == ' ' || c == '\t' || c == '\n' || c == '\r'

/-- The text from its first character that is no blank. -/
def skipBlanks (text : List Char) : List Char := text.dropWhile isBlank

/-- A part of a string: a character, or a code unit that was escaped with four digits. -/
inductive StringPart where
  | char (c : Char)
  | unit (code : Nat)

/-- What an escape of one letter stands for. -/
def escaped? : Char → Option Char
  | '"' => some '"'
  | '\\' => some '\\'
  | '/' => some '/'
  | 'b' => some '\x08'
  | 'f' => some '\x0c'
  | 'n' => some '\n'
  | 'r' => some '\r'
  | 't' => some '\t'
  | _ => none

/-- The parts of a string up to the closing quote, put in front of `done` in reverse, and what follows
the quote. -/
def stringParts (done : List StringPart) : List Char → Option (List StringPart × List Char)
  | [] => none
  | '"' :: later => some (done, later)
  | '\\' :: 'u' :: a :: b :: c :: d :: later => do
    let a ← Text.hexDigit? a
    let b ← Text.hexDigit? b
    let c ← Text.hexDigit? c
    let d ← Text.hexDigit? d
    stringParts (.unit (((a * 16 + b) * 16 + c) * 16 + d) :: done) later
  | '\\' :: c :: later => do
    let c ← escaped? c
    stringParts (.char c :: done) later
  | c :: later => if c.toNat < 0x20 || c == '\\' then none else stringParts (.char c :: done) later

/-- The characters of parts given in reverse, in front of `done`. Two surrogates make a character; one
alone makes none. -/
def joinParts (done : List Char) : List StringPart → Option (List Char)
  | [] => some done
  | .char c :: before => joinParts (c :: done) before
  | .unit low :: .unit high :: before =>
    if 0xDC00 ≤ low ∧ low ≤ 0xDFFF then
      if 0xD800 ≤ high ∧ high ≤ 0xDBFF then
        joinParts (Char.ofNat (0x10000 + (high - 0xD800) * 0x400 + (low - 0xDC00)) :: done) before
      else none
    else if 0xD800 ≤ low ∧ low ≤ 0xDBFF then none
    else joinParts (Char.ofNat low :: done) (.unit high :: before)
  | .unit code :: before =>
    if 0xD800 ≤ code ∧ code ≤ 0xDFFF then none else joinParts (Char.ofNat code :: done) before

/-- The string whose opening quote has been passed, and what follows it. -/
def stringFront? (text : List Char) : Option (String × List Char) := do
  let (parts, rest) ← stringParts [] text
  let s ← joinParts [] parts
  return (String.ofList s, rest)

mutual

/-- The value at the front of a text and what follows it, for arrays and objects nested at most `depth`
deep. `fuel` bounds the number of steps. -/
def valueFront? : (fuel depth : Nat) → List Char → Option (Json × List Char)
  | 0, _, _ => none
  | fuel + 1, depth, text =>
    match skipBlanks text with
    | 'n' :: 'u' :: 'l' :: 'l' :: later => some (null, later)
    | 't' :: 'r' :: 'u' :: 'e' :: later => some (bool true, later)
    | 'f' :: 'a' :: 'l' :: 's' :: 'e' :: later => some (bool false, later)
    | '"' :: later => do
      let (s, rest) ← stringFront? later
      return (string s, rest)
    | '[' :: later =>
      match depth with
      | 0 => none
      | depth + 1 =>
        match skipBlanks later with
        | ']' :: rest => some (array [], rest)
        | rest => itemsFront? fuel depth [] rest
    | '{' :: later =>
      match depth with
      | 0 => none
      | depth + 1 =>
        match skipBlanks later with
        | '}' :: rest => some (object [], rest)
        | rest => fieldsFront? fuel depth [] rest
    | later => do
      let (n, rest) ← Number.front? later
      return (number n, rest)

/-- The rest of an array, of which `done` has been read, in reverse. -/
def itemsFront? : (fuel depth : Nat) → List Json → List Char → Option (Json × List Char)
  | 0, _, _, _ => none
  | fuel + 1, depth, done, text => do
    let (v, rest) ← valueFront? fuel depth text
    match skipBlanks rest with
    | ',' :: later => itemsFront? fuel depth (v :: done) later
    | ']' :: later => some (array (v :: done).reverse, later)
    | _ => none

/-- The rest of an object, of which `done` has been read, in reverse. -/
def fieldsFront? : (fuel depth : Nat) → List (String × Json) → List Char →
    Option (Json × List Char)
  | 0, _, _, _ => none
  | fuel + 1, depth, done, text =>
    match skipBlanks text with
    | '"' :: later => do
      let (key, rest) ← stringFront? later
      match skipBlanks rest with
      | ':' :: later =>
        let (v, rest) ← valueFront? fuel depth later
        match skipBlanks rest with
        | ',' :: later => fieldsFront? fuel depth ((key, v) :: done) later
        | '}' :: later => some (ofFields ((key, v) :: done).reverse, later)
        | _ => none
      | _ => none
    | _ => none

end

/-- How deep arrays and objects may be nested. -/
def maxDepth : Nat := 127

/-- The value of a JSON text; `none` if the text is not one. -/
def parse? (text : List Char) : Option Json := do
  let (v, rest) ← valueFront? (2 * text.length + 2) maxDepth text
  if skipBlanks rest = [] then some v else none

end Annotator.Json
