import Annotator.Unicode.Latest

/-!
# Quoted texts

A text between double quotes for a message, in which every character can be seen.
-/

namespace Annotator.Text

/-- A number in lower-case hexadecimal digits. -/
def hexText (n : Nat) : List Char := Nat.toDigits 16 n

/-- A character as it is written between quotes: quotes and backslashes are escaped, and characters
that are not visible on their own are given by their code points. -/
def visibleChar (c : Char) : List Char :=
  match c with
  | '\x00' => ['\\', '0']
  | '\t' => ['\\', 't']
  | '\r' => ['\\', 'r']
  | '\n' => ['\\', 'n']
  | '\\' => ['\\', '\\']
  | '"' => ['\\', '"']
  | c =>
    if Unicode.Latest.extendingMarks.contains c.toNat ||
        Unicode.Latest.invisible.contains c.toNat then
      '\\' :: 'u' :: '{' :: hexText c.toNat ++ ['}']
    else [c]

/-- The text between quotes. -/
def quoted (s : String) : String :=
  String.ofList ('"' :: s.toList.flatMap visibleChar ++ ['"'])

end Annotator.Text
