import Annotator.Json.Basic
import Annotator.Text.Digit

/-!
# Numbers of TOML documents

A whole number has 63 bits and a sign, and may be hexadecimal, octal or binary. Any other number is the
binary64 number nearest to what is written. Underscores may stand between digits. What is neither
finite nor whole has no number in JSON and is null there.
-/

namespace Annotator.Toml

/-- The digits at the front of a text and what follows them. An underscore may stand between two
digits. -/
def digitsFront (isDigit : Char → Bool) : List Char → List Char × List Char
  | [] => ([], [])
  | c :: '_' :: d :: later =>
    if isDigit c then
      if isDigit d then
        let (digits, rest) := digitsFront isDigit (d :: later)
        (c :: digits, rest)
      else ([c], '_' :: d :: later)
    else ([], c :: '_' :: d :: later)
  | c :: later =>
    if isDigit c then
      let (digits, rest) := digitsFront isDigit later
      (c :: digits, rest)
    else ([], c :: later)

/-- Whether a character is a digit in a base. -/
def isDigitOf (base : Nat) (c : Char) : Bool := (Text.hexDigit? c).any (· < base)

/-- The base that a letter after a zero stands for. -/
def baseOf? : Char → Option Nat
  | 'x' => some 16
  | 'o' => some 8
  | 'b' => some 2
  | _ => none

/-- The value of a whole number, unless it has too many bits. -/
def whole? (minus : Bool) (n : Nat) : Option Json :=
  if minus && n != 0 then
    if n ≤ Nat.pow 2 63 then some (.number (.negative (n - 1))) else none
  else if n < Nat.pow 2 63 then some (.number (.natural n))
  else none

/-- The exponent at the front of a text, if there is one, and what follows it. -/
def exponentFront? : List Char → Option (Option Int × List Char)
  | [] => some (none, [])
  | c :: later =>
    if c == 'e' || c == 'E' then
      let (minus, later) := match later with
        | '+' :: r => (false, r)
        | '-' :: r => (true, r)
        | r => (false, r)
      match digitsFront Char.isDigit later with
      | ([], _) => none
      | (digits, rest) =>
        let size : Int := Text.ofDigits 10 digits
        some (some (if minus then -size else size), rest)
    else some (none, c :: later)

/-- The value of a number that is not whole, for the digits before and after the point and the
exponent. Below the range of finite numbers there is minus infinity; above it there is nothing. -/
def float? (minus : Bool) (whole places : List Char) (exponent : Int) : Option Json :=
  let digits := whole ++ places
  match Binary64.ofDecimal minus (Text.ofDigits 10 digits) digits.length
      (exponent - (places.length : Int)) with
  | some x => some (.number (.float x))
  | none => if minus then some .null else none

/-- The value of the decimal number at the front of a text, whose sign has been read, and what follows
it. -/
def decimalFront? (minus : Bool) (text : List Char) : Option (Json × List Char) := do
  let (whole, text) := digitsFront Char.isDigit text
  if whole = [] ∨ (whole.head? = some '0' ∧ whole.length > 1) then none
  let (places, text) ← match text with
    | '.' :: later =>
      match digitsFront Char.isDigit later with
      | ([], _) => none
      | (places, rest) => some (some places, rest)
    | rest => some (none, rest)
  let (exponent, text) ← exponentFront? text
  let value ←
    if places = none ∧ exponent = none then whole? minus (Text.ofDigits 10 whole)
    else float? minus whole (places.getD []) (exponent.getD 0)
  return (value, text)

/-- The value of the number at the front of a text and what follows it. -/
def numberFront? (text : List Char) : Option (Json × List Char) :=
  let unsigned (minus : Bool) : List Char → Option (Json × List Char)
    | 'i' :: 'n' :: 'f' :: later => some (.null, later)
    | 'n' :: 'a' :: 'n' :: later => some (.null, later)
    | later => decimalFront? minus later
  match text with
  | '+' :: later => unsigned false later
  | '-' :: later => unsigned true later
  | '0' :: c :: later =>
    match baseOf? c with
    | some base =>
      match digitsFront (isDigitOf base) later with
      | ([], _) => none
      | (digits, rest) => (whole? false (Text.ofDigits base digits)).map (·, rest)
    | none => unsigned false text
  | later => unsigned false later

end Annotator.Toml
