/-!
# Binary64 numbers

Finite floating point numbers of double precision as a sign, a whole significand and a power of two,
with rounding in exact arithmetic. A result that is too large for a finite number is `none`.
-/

namespace Annotator

/-- The number `± mantissa · 2 ^ exponent`, in lowest range: the mantissa has at most 53 bits, the
exponent is at least -1074, and the mantissa has fewer than 53 bits only with the least exponent. -/
structure Binary64 where
  negative : Bool
  mantissa : Nat
  exponent : Int
  deriving Repr, DecidableEq

namespace Binary64

/-- The least exponent. -/
def minExponent : Int := -1074

/-- The greatest exponent of a finite number. -/
def maxExponent : Int := 971

/-- The whole number nearest to `a / b`; of two that are equally near, the even one. -/
def divNearest (a b : Nat) : Nat :=
  let q := a / b
  let r := a % b
  if 2 * r > b || (2 * r == b && q % 2 == 1) then q + 1 else q

/-- Zero with a sign. -/
def zero (negative : Bool) : Binary64 := ⟨negative, 0, minExponent⟩

/-- Whether the number is zero, of either sign. -/
def isZero (x : Binary64) : Bool := x.mantissa == 0

/-- The number with the sign replaced. -/
def withSign (x : Binary64) (negative : Bool) : Binary64 := { x with negative }

/-- `a · 2 ^ e` and `b` as a fraction without negative powers. -/
def scaled (a b : Nat) (e : Int) : Nat × Nat :=
  if e ≥ 0 then (a * Nat.pow 2 e.toNat, b) else (a, b * Nat.pow 2 (-e).toNat)

/-- The number nearest to `a / b`, ties to even. -/
def ofRatio (negative : Bool) (a b : Nat) : Option Binary64 :=
  if a = 0 then some (zero negative) else
    let guess : Int := (a.log2 : Int) - (b.log2 : Int) - 53
    let fits (e : Int) : Bool := let (n, d) := scaled a b (-e); n / d < Nat.pow 2 53
    let exact := if fits guess then guess else guess + 1
    let e := max exact minExponent
    let (n, d) := scaled a b (-e)
    let m := divNearest n d
    let (m, e) := if m = Nat.pow 2 53 then (Nat.pow 2 52, e + 1) else (m, e)
    if e > maxExponent then none else some ⟨negative, m, e⟩

/-- The number nearest to a whole number. -/
def ofNat (n : Nat) : Option Binary64 := ofRatio false n 1

/-- The number nearest to `10 ^ n`, for a power that is in range. -/
def powerOfTen (n : Nat) : Binary64 := (ofNat (Nat.pow 10 n)).getD (zero false)

/-- The magnitude as a fraction. -/
def ratio (x : Binary64) : Nat × Nat := scaled x.mantissa 1 x.exponent

/-- The rounded product. -/
def mul (x y : Binary64) : Option Binary64 :=
  let (a, b) := x.ratio
  let (c, d) := y.ratio
  ofRatio (x.negative != y.negative) (a * c) (b * d)

/-- The rounded quotient by a number that is not zero. -/
def div (x y : Binary64) : Option Binary64 :=
  let (a, b) := x.ratio
  let (c, d) := y.ratio
  ofRatio (x.negative != y.negative) (a * d) (b * c)

/-- The number nearest to `digits · 10 ^ exponent`, where `digits` is written with at most `places`
decimal digits. Beyond the range of the format nothing is computed. -/
def ofDecimal (negative : Bool) (digits : Nat) (places : Nat) (exponent : Int) : Option Binary64 :=
  if digits = 0 then some (zero negative)
  else if exponent > 310 then none
  else if exponent + places < -330 then some (zero negative)
  else if exponent ≥ 0 then ofRatio negative (digits * Nat.pow 10 exponent.toNat) 1
  else ofRatio negative digits (Nat.pow 10 (-exponent).toNat)

end Binary64

end Annotator
