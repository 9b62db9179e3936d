/-!
# Digits and code points

The values of digits, the numbers that digits make, and the characters that numbers stand for.
-/

namespace Annotator.Text

/-- The decimal digits of a number. -/
def decimalDigits (n : Nat) : List Char := Nat.toDigits 10 n

/-- The decimal digits of a number, with zeros in front up to a width. -/
def padded (width n : Nat) : List Char :=
  let digits := decimalDigits n
  List.replicate (width - digits.length) '0' ++ digits

/-- The value of a hexadecimal digit. -/
def hexDigit? (c : Char) : Option Nat :=
  if c.isDigit then some (c.toNat - 48)
  else if 'a' ≤ c ∧ c ≤ 'f' then some (c.toNat - 87)
  else if 'A' ≤ c ∧ c ≤ 'F' then some (c.toNat - 55)
  else none

/-- The number that hexadecimal digits make, the greatest power first. -/
def hexNumber? (digits : List Char) : Option Nat :=
  digits.foldlM (fun n c => (hexDigit? c).map (16 * n + ·)) 0

/-- The number that digits make in a base that has them all. -/
def ofDigits (base : Nat) (digits : List Char) : Nat :=
  digits.foldl (fun n c => base * n + (hexDigit? c).getD 0) 0

/-- A size: a whole number below 2⁶⁴ in decimal digits, which may have a plus sign in front. -/
def size? (text : List Char) : Option Nat :=
  let digits := match text with
    | '+' :: later => later
    | all => all
  if digits = [] || !digits.all Char.isDigit then none
  else
    let n := ofDigits 10 digits
    if n < Nat.pow 2 64 then some n else none

/-- The character with a code point, unless it is a surrogate or too great. -/
def charOf? (code : Nat) : Option Char :=
  if code.isValidChar then some (Char.ofNat code) else none

end Annotator.Text
