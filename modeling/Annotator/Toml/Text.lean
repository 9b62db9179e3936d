import Annotator.Text.Digit

/-!
# Blanks, comments, strings and keys of TOML documents

The smallest parts of a TOML document. A reader takes the text from where it stands and gives what it
read with the rest of the text; `none` means that the document is not well formed.
-/

namespace Annotator.Toml

/-! ## Blanks and lines -/

/-- The blanks within a line. -/
def isBlank (c : Char) : Bool := c == ' ' || c == '\t'

/-- A text from its first character that is no blank. -/
def skipBlanks (text : List Char) : List Char := text.dropWhile isBlank

/-- Whether a character may stand in comments and strings as it is: a tab, or no control character of
ASCII. -/
def isPlain (c : Char) : Bool := c == '\t' || (0x20 ≤ c.toNat && c.toNat != 0x7F)

/-- What follows the line break at the front of a text. -/
def lineBreak? : List Char → Option (List Char)
  | '\n' :: later => some later
  | '\r' :: '\n' :: later => some later
  | _ => none

/-- A text without the comment at its front, if there is one. -/
def skipComment : List Char → List Char
  | '#' :: later => later.dropWhile isPlain
  | text => text

/-- What follows the end of a line that holds nothing more than blanks and a comment. The last line
need not be broken. -/
def lineEnd? (text : List Char) : Option (List Char) :=
  match skipComment (skipBlanks text) with
  | [] => some []
  | rest => lineBreak? rest

/-- A text from its first character that is in no blank, line break or comment. -/
def skipLines (inComment : Bool) : List Char → List Char
  | [] => []
  | '\n' :: later => skipLines false later
  | '\r' :: '\n' :: later => skipLines false later
  | c :: later =>
    if isBlank c || (inComment && isPlain c) then skipLines inComment later
    else if c == '#' then skipLines true later
    else c :: later

/-! ## Strings -/

/-- What an escape of one letter stands for. -/
def escaped? : Char → Option Char
  | '"' => some '"'
  | '\\' => some '\\'
  | 'b' => some '\x08'
  | 'f' => some '\x0c'
  | 'n' => some '\n'
  | 'r' => some '\r'
  | 't' => some '\t'
  | _ => none

/-- What follows a quote that ends a string, and how many of the quotes before the end belong to the
string. A string of several lines ends with three quotes; up to two more before them are its own. -/
def closing? (lines : Bool) (quote : Char) (text : List Char) : Option (Nat × List Char) :=
  if lines then
    match text with
    | a :: b :: later =>
      if a == quote && b == quote then
        let own := ((later.take 2).takeWhile (· == quote)).length
        some (own, later.drop own)
      else none
    | _ => none
  else some (0, text)

/-- The string of the characters in `done`, which are in reverse, with some quotes at its end. -/
def closed (quote : Char) (done : List Char) (own : Nat) : String :=
  String.ofList (List.replicate own quote ++ done).reverse

/-- The rest of a string with escapes and what follows it; `done` has been read, in reverse. After a
line break that is escaped, `trim` is set: blanks and line breaks do not count then. -/
def basicFrom? (lines trim : Bool) (done : List Char) : List Char → Option (String × List Char)
  | [] => none
  | '\\' :: 'u' :: a :: b :: c :: d :: later => do
    let code ← Text.hexNumber? [a, b, c, d]
    basicFrom? lines false ((← Text.charOf? code) :: done) later
  | '\\' :: 'U' :: a :: b :: c :: d :: e :: f :: g :: h :: later => do
    let code ← Text.hexNumber? [a, b, c, d, e, f, g, h]
    basicFrom? lines false ((← Text.charOf? code) :: done) later
  | '\\' :: c :: later =>
    match escaped? c with
    | some e => basicFrom? lines false (e :: done) later
    | none =>
      if lines && (lineBreak? (skipBlanks (c :: later))).isSome then
        basicFrom? lines true done later
      else none
  | '\r' :: '\n' :: later =>
    if lines then basicFrom? lines trim (if trim then done else '\n' :: done) later else none
  | c :: later =>
    if c == '"' then
      match closing? lines '"' later with
      | some (own, rest) => some (closed '"' done own, rest)
      | none => basicFrom? lines false ('"' :: done) later
    else if c == '\n' then
      if lines then basicFrom? lines trim (if trim then done else '\n' :: done) later else none
    else if trim && isBlank c then basicFrom? lines trim done later
    else if isPlain c && c != '\\' then basicFrom? lines false (c :: done) later
    else none

/-- The rest of a string without escapes and what follows it; `done` has been read, in reverse. -/
def literalFrom? (lines : Bool) (done : List Char) : List Char → Option (String × List Char)
  | [] => none
  | '\r' :: '\n' :: later => if lines then literalFrom? lines ('\n' :: done) later else none
  | c :: later =>
    if c == '\'' then
      match closing? lines '\'' later with
      | some (own, rest) => some (closed '\'' done own, rest)
      | none => literalFrom? lines ('\'' :: done) later
    else if isPlain c || (lines && c == '\n') then literalFrom? lines (c :: done) later
    else none

/-- A text without the line break at its front, if there is one. -/
def dropLineBreak (text : List Char) : List Char := (lineBreak? text).getD text

/-- The string at the front of a text and what follows it. -/
def stringFront? : List Char → Option (String × List Char)
  | '"' :: '"' :: '"' :: later => basicFrom? true false [] (dropLineBreak later)
  | '"' :: later => basicFrom? false false [] later
  | '\'' :: '\'' :: '\'' :: later => literalFrom? true [] (dropLineBreak later)
  | '\'' :: later => literalFrom? false [] later
  | _ => none

/-! ## Keys -/

/-- Whether a character may stand in a key without quotes. -/
def isKeyChar (c : Char) : Bool := c.isAlphanum || c == '-' || c == '_'

/-- A key is a path of names from a table to a value in a table below it. -/
abbrev Key := List String

/-- The name at the front of a text and what follows it. -/
def nameFront? : List Char → Option (String × List Char)
  | '"' :: later => basicFrom? false false [] later
  | '\'' :: later => literalFrom? false [] later
  | text =>
    match text.takeWhile isKeyChar with
    | [] => none
    | name => some (String.ofList name, text.dropWhile isKeyChar)

/-- How many names a key may have. -/
def maxKeyLength : Nat := 79

/-- The key at the front of a text and what follows it, of at most `room` names. -/
def keyFrom? : (room : Nat) → List Char → Option (Key × List Char)
  | 0, _ => none
  | room + 1, text => do
    let (name, rest) ← nameFront? (skipBlanks text)
    match skipBlanks rest with
    | '.' :: later =>
      let (key, rest) ← keyFrom? room later
      return (name :: key, rest)
    | rest => return ([name], rest)

/-- The key at the front of a text and what follows it. -/
def keyFront? (text : List Char) : Option (Key × List Char) := keyFrom? maxKeyLength text

end Annotator.Toml
