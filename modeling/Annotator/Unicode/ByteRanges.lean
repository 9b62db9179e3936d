import Annotator.Unicode.Ranges

/-!
# Ranges of bytes

The code points of a set in UTF-8, as sequences of ranges of bytes. A text is searched byte by byte,
so how much a set takes is a matter of these sequences and not of its ranges: all characters but the
line feed are two ranges and ten sequences.
-/

namespace Annotator

/-- The length of what two lists begin with alike. -/
def commonLength {α : Type} [BEq α] : List α → List α → Nat
  | a :: as, b :: bs => if a == b then commonLength as bs + 1 else 0
  | _, _ => 0

namespace Unicode

/-- Ranges of bytes one after another. They stand for the characters that have a byte of each range
in turn. -/
abbrev ByteRanges := List (Nat × Nat)

namespace ByteRanges

/-- The numbers from `a` to `b`, written with a leading digit and `n` more to the base 64, as
sequences of ranges of digits; `lead` is the byte of the leading digit zero. The leading digits that
all others follow share one sequence, and what is left at either end is told apart further. -/
def ofDigits (lead : Nat) : Nat → Nat → Nat → List ByteRanges
  | 0, a, b => [[(lead + a, lead + b)]]
  | n + 1, a, b =>
    let block := Nat.pow 64 (n + 1)
    let first := a / block
    let last := b / block
    let under (digit a b : Nat) : List ByteRanges :=
      (ofDigits 0x80 n a b).map ((lead + digit, lead + digit) :: ·)
    if first = last then under first (a % block) (b % block)
    else
      let begun := if a % block = 0 then [] else under first (a % block) (block - 1)
      let ended := if b % block = block - 1 then [] else under last 0 (b % block)
      let low := if begun.isEmpty then first else first + 1
      let high := if ended.isEmpty then last + 1 else last
      let whole := if low < high then
        [(lead + low, lead + (high - 1)) :: List.replicate (n + 1) (0x80, 0xBF)] else []
      begun ++ whole ++ ended

/-- The code points that have UTF-8 forms of one length: the first and the last of them, the number
of bytes behind the leading one, and what the leading byte begins at. -/
def lengths : List (Nat × Nat × Nat × Nat) :=
  [(0, 0x7F, 0, 0), (0x80, 0x7FF, 1, 0xC0), (0x800, 0xD7FF, 2, 0xE0), (0xE000, 0xFFFF, 2, 0xE0),
    (0x10000, lastCode, 3, 0xF0)]

/-- The UTF-8 forms of the code points of a set. -/
def ofSet (s : CodeSet) : List ByteRanges :=
  s.flatMap fun (lo, hi) => lengths.flatMap fun (first, last, n, lead) =>
    if max lo first ≤ min hi last then ofDigits lead n (max lo first) (min hi last) else []

/-- The number of ranges of some sequences. What a sequence begins with like the one before it, the
first of which is `prev`, is not counted again. -/
def rangeCount (prev : ByteRanges) : List ByteRanges → Nat
  | [] => 0
  | s :: later => (s.length - commonLength prev s) + rangeCount s later

end ByteRanges

end Unicode

end Annotator
