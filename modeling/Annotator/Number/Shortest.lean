import Annotator.Number.Binary64
import Annotator.Text.Digit

/-!
# Shortest digits

The fewest decimal digits that read back as a given binary64 number, and of those the nearest to it.
-/

namespace Annotator

namespace Binary64

/-- Digits and a point: `0.d₁d₂… · 10 ^ point`. -/
structure Decimal where
  digits : List Char
  point : Int
  deriving Repr, DecidableEq

/-- The place of the point of a positive fraction: its value is below `10 ^ p` and not below
`10 ^ (p - 1)`. -/
def pointOf (a b : Nat) : Int :=
  if a ≥ b then (Text.decimalDigits (a / b)).length
  else 1 - ((Text.decimalDigits (b / a)).length : Int)

/-- Whether `n · 10 ^ place` is read as `x`: it lies between the middles to the two neighbours of
`x`, or on one of them if the mantissa of `x` is even. -/
def readsBack (x : Binary64) (n : Nat) (place : Int) : Bool :=
  let power := Nat.pow 10 place.natAbs
  -- all in units of a quarter of the last bit of `x`
  let (value, unit) := scaled (if place ≥ 0 then n * power else n)
    (if place ≥ 0 then 1 else power) (2 - x.exponent)
  let above := (4 * x.mantissa + 2) * unit
  let below :=
    if x.mantissa = Nat.pow 2 52 ∧ x.exponent > minExponent then (4 * x.mantissa - 1) * unit
    else (4 * x.mantissa - 2) * unit
  if x.mantissa % 2 = 0 then below ≤ value && value ≤ above else below < value && value < above

/-- The best multiple of `10 ^ place` that reads back as `x`, of the two next to `x`; a tie goes to
the even one. -/
def best? (x : Binary64) (place : Int) : Option Nat :=
  let (a, b) := x.ratio
  let power := Nat.pow 10 place.natAbs
  let (a, b) := if place ≥ 0 then (a, b * power) else (a * power, b)
  let q := a / b
  match readsBack x q place, readsBack x (q + 1) place with
  | true, true =>
    let r := a % b
    some (if 2 * r > b || (2 * r == b && q % 2 == 1) then q + 1 else q)
  | true, false => some q
  | false, true => some (q + 1)
  | false, false => none

/-- The first answer with `k` or more digits, for at most `tries` counts of digits. -/
def shortestFrom (x : Binary64) (point : Int) : Nat → Nat → Decimal
  | 0, k => ⟨List.replicate k '0', point⟩
  | tries + 1, k =>
    match best? x (point - k) with
    | some n =>
      let digits := Text.decimalDigits n
      let kept := (digits.reverse.dropWhile (· == '0')).reverse
      ⟨kept, point + ((digits.length : Int) - k)⟩
    | none => shortestFrom x point tries (k + 1)

/-- The shortest digits of a number that is not zero, without its sign. -/
def shortest (x : Binary64) : Decimal :=
  let (a, b) := x.ratio
  shortestFrom x (pointOf a b) 17 1

end Binary64

end Annotator
