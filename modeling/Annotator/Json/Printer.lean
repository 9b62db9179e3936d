import Annotator.Json.NumberText

/-!
# Writing JSON texts

Two layouts of a value: on one line without blanks, and with one item to a line, two spaces deeper at
each level. Characters that need no escape are written as they are.
-/

namespace Annotator.Json

/-- A hexadecimal digit in lower case. -/
def hexDigit (n : Nat) : Char := if n < 10 then Char.ofNat (48 + n) else Char.ofNat (87 + n)

/-- A character of a string as it is written between the quotes. -/
def escapeChar (c : Char) : List Char :=
  match c with
  | '"' => ['\\', '"']
  | '\\' => ['\\', '\\']
  | '\x08' => ['\\', 'b']
  | '\x0c' => ['\\', 'f']
  | '\n' => ['\\', 'n']
  | '\r' => ['\\', 'r']
  | '\t' => ['\\', 't']
  | c =>
    if c.toNat < 0x20 then ['\\', 'u', '0', '0', hexDigit (c.toNat / 16), hexDigit (c.toNat % 16)]
    else [c]

/-- A string between quotes. -/
def quote (s : String) : List Char :=
  '"' :: s.toList.flatMap escapeChar ++ ['"']

mutual

/-- The value on one line. -/
def compact : Json → List Char
  | null => "null".toList
  | bool true => "true".toList
  | bool false => "false".toList
  | number n => n.text
  | string s => quote s
  | array [] => ['[', ']']
  | array (v :: later) => '[' :: compact v ++ compactItems later
  | object [] => ['{', '}']
  | object ((k, v) :: later) => '{' :: quote k ++ ':' :: compact v ++ compactFields later

/-- The rest of an array on one line. -/
def compactItems : List Json → List Char
  | [] => [']']
  | v :: later => ',' :: compact v ++ compactItems later

/-- The rest of an object on one line. -/
def compactFields : List (String × Json) → List Char
  | [] => ['}']
  | (k, v) :: later => ',' :: quote k ++ ':' :: compact v ++ compactFields later

end

/-- A new line at a depth. -/
def newLine (depth : Nat) : List Char := '\n' :: List.replicate (2 * depth) ' '

mutual

/-- The value with one item to a line, at a depth. -/
def prettyAt (depth : Nat) : Json → List Char
  | null => "null".toList
  | bool true => "true".toList
  | bool false => "false".toList
  | number n => n.text
  | string s => quote s
  | array [] => ['[', ']']
  | array (v :: later) =>
    '[' :: newLine (depth + 1) ++ prettyAt (depth + 1) v ++ prettyItems depth later
  | object [] => ['{', '}']
  | object ((k, v) :: later) =>
    '{' :: newLine (depth + 1) ++ quote k ++ ':' :: ' ' :: prettyAt (depth + 1) v ++
      prettyFields depth later

/-- The rest of an array whose brackets stand at a depth. -/
def prettyItems (depth : Nat) : List Json → List Char
  | [] => newLine depth ++ [']']
  | v :: later =>
    ',' :: newLine (depth + 1) ++ prettyAt (depth + 1) v ++ prettyItems depth later

/-- The rest of an object whose braces stand at a depth. -/
def prettyFields (depth : Nat) : List (String × Json) → List Char
  | [] => newLine depth ++ ['}']
  | (k, v) :: later =>
    ',' :: newLine (depth + 1) ++ quote k ++ ':' :: ' ' :: prettyAt (depth + 1) v ++
      prettyFields depth later

end

/-- The value with one item to a line. -/
def pretty (v : Json) : List Char := prettyAt 0 v

end Annotator.Json
