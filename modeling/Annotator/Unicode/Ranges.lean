/-!
# Sets of code points

A set of code points is a list of ranges, in ascending order and with gaps between them. The
surrogates are no members: the code point after U+D7FF is U+E000, so a range that ends at the one and
a range that begins at the other are neighbours.
-/

namespace Annotator.Unicode

/-- A set of code points: ranges with both ends included, ascending and apart from one another. -/
abbrev CodeSet := List (Nat × Nat)

/-- The last code point. -/
def lastCode : Nat := 0x10FFFF

/-- The code point after `c`. -/
def after (c : Nat) : Nat := if c = 0xD7FF then 0xE000 else c + 1

/-- The code point before `c`. -/
def before (c : Nat) : Nat := if c = 0xE000 then 0xD7FF else c - 1

namespace CodeSet

/-- Whether the set has the code point. -/
def contains : CodeSet → Nat → Bool
  | [], _ => false
  | (lo, hi) :: later, c => if c < lo then false else c ≤ hi || contains later c

/-- Joins each range to the one before it where they overlap or touch. -/
def join : Nat × Nat → List (Nat × Nat) → CodeSet
  | r, [] => [r]
  | (lo, hi), (lo', hi') :: later =>
    if lo' ≤ after hi then join (lo, max hi hi') later
    else (lo, hi) :: join (lo', hi') later

/-- The set of the code points of some ranges, which may come in any order and overlap. -/
def ofRanges (ranges : List (Nat × Nat)) : CodeSet :=
  match ranges.mergeSort fun a b => a.1 ≤ b.1 with
  | [] => []
  | r :: later => join r later

/-- The set of some code points in ascending order. -/
def ofAscending : List Nat → CodeSet
  | [] => []
  | c :: later => join (c, c) (later.map fun d => (d, d))

/-- The code points of either set. -/
def union (a b : CodeSet) : CodeSet :=
  ofRanges (a ++ b)

/-- The code points from `start` on that are not in the set, none of whose ranges ends before
`start`. -/
def complementFrom (start : Nat) : CodeSet → CodeSet
  | [] => if start ≤ lastCode then [(start, lastCode)] else []
  | (lo, hi) :: later =>
    if start < lo then (start, before lo) :: complementFrom (after hi) later
    else complementFrom (after hi) later

/-- The code points that are not in the set. -/
def complement (s : CodeSet) : CodeSet :=
  complementFrom 0 s

/-- The code points of both sets. -/
def inter (a b : CodeSet) : CodeSet :=
  complement (union (complement a) (complement b))

/-- The code points of the first set that the second does not have. -/
def diff (a b : CodeSet) : CodeSet :=
  inter a (complement b)

/-- The code points of exactly one of the sets. -/
def symmDiff (a b : CodeSet) : CodeSet :=
  diff (union a b) (inter a b)

/-- The set of all code points. -/
def all : CodeSet := [(0, lastCode)]

/-- The set of one code point. -/
def singleton (c : Nat) : CodeSet := [(c, c)]

/-- The only code point of the set, if there is just one. -/
def single? : CodeSet → Option Nat
  | [(lo, hi)] => if lo = hi then some lo else none
  | _ => none

/-- The value of a word of hexadecimal digits. -/
def hexValue (digits : String) : Nat :=
  digits.toList.foldl (fun n d => 16 * n + (if d.isDigit then d.toNat - 48 else d.toNat - 55)) 0

/-- Reads ranges such as `41-5A` and single code points such as `AA`, with blanks between. -/
def ofHex (text : String) : CodeSet :=
  (text.splitOn " ").filterMap fun range =>
    match range.splitOn "-" with
    | [one] => some (hexValue one, hexValue one)
    | [first, last] => some (hexValue first, hexValue last)
    | _ => none

end CodeSet

/-- A set of code points with the spellings of its name; the ranges are written in hexadecimal, line
by line. -/
structure NamedRanges where
  names : List String
  ranges : List String

namespace NamedRanges

/-- The set that is meant. -/
def codes (r : NamedRanges) : CodeSet := r.ranges.flatMap CodeSet.ofHex

end NamedRanges

end Annotator.Unicode
