import Annotator.Json.Basic

/-!
# Numbers of JSON texts

Reading and writing the numbers of a JSON text.

A whole number that fits 64 bits is kept as it is. Any other number is read as a significand of at
most 64 bits and a power of ten, each of which is rounded to binary64 before the product or quotient
is: this is not always the binary64 number nearest to what is written. Digits that no longer fit the
significand only move the power.
-/

namespace Annotator.Number

/-- The greatest significand. -/
def maxSignificand : Nat := Nat.pow 2 64 - 1

/-- The digits at the front of a text and what follows them. -/
def digitsFront (text : List Char) : List Nat × List Char :=
  ((text.takeWhile Char.isDigit).map fun c => c.toNat - 48, text.dropWhile Char.isDigit)

/-- Takes digits into a significand as long as it fits, and counts those that are left. -/
def absorb (significand : Nat) : List Nat → Nat × Nat
  | [] => (significand, 0)
  | d :: later =>
    if 10 * significand + d > maxSignificand then (significand, later.length + 1)
    else absorb (10 * significand + d) later

/-- Divides by powers of ten, at most 308 at a time, until the number is zero or the power spent. -/
def shrink (x : Binary64) (power : Nat) : Binary64 :=
  if x.isZero then x
  else if power ≤ 308 then (x.div (Binary64.powerOfTen power)).getD x
  else shrink ((x.div (Binary64.powerOfTen 308)).getD x) (power - 308)
  termination_by power

/-- The binary64 number for a significand and a power of ten; `none` if it is too large. -/
def ofParts (minus : Bool) (significand : Nat) (power : Int) : Option Number := do
  let x ← Binary64.ofNat significand
  let y ←
    if power < 0 then some (shrink x (-power).toNat)
    else if power ≤ 308 then x.mul (Binary64.powerOfTen power.toNat)
    else if x.isZero then some x
    else none
  return float (y.withSign minus)

/-- The number for the parts of a literal: its sign, the digits before the point, those after it if
there is a point, and the exponent if there is one. -/
def ofLiteral (minus : Bool) (whole : List Nat) (fraction : Option (List Nat))
    (exponent : Option (Bool × List Nat)) : Option Number :=
  let (significand, dropped) := absorb 0 whole
  if dropped = 0 ∧ fraction = none ∧ exponent = none then
    if !minus then some (natural significand)
    else if 0 < significand ∧ significand ≤ Nat.pow 2 63 then some (negative (significand - 1))
    else ofParts true significand 0
  else
    let places := fraction.getD []
    let (significand, unused) := absorb significand places
    let power : Int := (dropped : Int) - ((places.length - unused : Nat) : Int)
    match exponent with
    | none => ofParts minus significand power
    | some (down, digits) =>
      let size : Nat := digits.foldl (fun n d => 10 * n + d) 0
      if size > Nat.pow 2 31 - 1 then
        if significand = 0 ∨ down then some (float (Binary64.zero minus)) else none
      else ofParts minus significand (if down then power - (size : Int) else power + (size : Int))

/-- The exponent at the front of a text, if there is one: whether it is negative, and its digits. -/
def exponentFront : List Char → Option (Option (Bool × List Nat) × List Char)
  | c :: later =>
    if c == 'e' || c == 'E' then
      let (down, later) := match later with
        | '+' :: r => (false, r)
        | '-' :: r => (true, r)
        | r => (false, r)
      match digitsFront later with
      | ([], _) => none
      | (digits, rest) => some (some (down, digits), rest)
    else some (none, c :: later)
  | [] => some (none, [])

/-- The number at the front of a text and what follows it. A number does not begin with a zero unless
this is its only digit before the point, and there are digits on either side of a point. -/
def front? (text : List Char) : Option (Number × List Char) := do
  let (minus, text) := match text with
    | '-' :: r => (true, r)
    | r => (false, r)
  let (whole, text) := digitsFront text
  if whole = [] ∨ (whole.head? = some 0 ∧ whole.length > 1) then none
  let (fraction, text) ← match text with
    | '.' :: r =>
      match digitsFront r with
      | ([], _) => none
      | (digits, rest) => some (some digits, rest)
    | r => some (none, r)
  let (exponent, text) ← exponentFront text
  let n ← ofLiteral minus whole fraction exponent
  return (n, text)

/-- The text of a binary64 number: the shortest digits that read back, written with a point from
10⁻⁵ up to 10¹⁶ and with an exponent elsewhere. -/
def floatText (x : Binary64) : List Char :=
  let sign := if x.negative then ['-'] else []
  if x.isZero then sign ++ ['0', '.', '0'] else
    let d := x.shortest
    let count : Int := d.digits.length
    sign ++
      if 0 < d.point ∧ d.point ≤ 16 then
        if count ≤ d.point then
          d.digits ++ List.replicate (d.point - count).toNat '0' ++ ['.', '0']
        else d.digits.take d.point.toNat ++ '.' :: d.digits.drop d.point.toNat
      else if -5 < d.point ∧ d.point ≤ 0 then
        '0' :: '.' :: List.replicate (-d.point).toNat '0' ++ d.digits
      else
        let e := d.point - 1
        let mantissa := match d.digits with
          | first :: c :: later => first :: '.' :: c :: later
          | digits => digits
        mantissa ++ 'e' :: (if e < 0 then '-' else '+') :: Text.decimalDigits e.natAbs

/-- The text of a number. -/
def text : Number → List Char
  | natural n => Text.decimalDigits n
  | negative n => '-' :: Text.decimalDigits (n + 1)
  | float x => floatText x

instance : ToString Number where
  toString n := String.ofList n.text

end Annotator.Number
