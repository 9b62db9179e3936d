/-!
# Case runs

A case mapping as runs of code points: within a run every code point, or every second one, moves by
the same distance.
-/

namespace Annotator.Text

/-- The code points `first`, `first + step`, … up to `last`, the first of which maps to `target` and
the others by the same distance. -/
structure CaseRun where
  first : Nat
  last : Nat
  step : Nat
  target : Nat
  deriving Repr, DecidableEq

namespace CaseRun

/-- Whether the code point is one of the run. -/
def covers (r : CaseRun) (c : Nat) : Bool :=
  r.first ≤ c && c ≤ r.last && (c - r.first) % r.step == 0

/-- What a code point of the run maps to. -/
def image (r : CaseRun) (c : Nat) : Nat :=
  r.target + (c - r.first)

/-- The code point of the run that maps to `t`, if there is one. -/
def source? (r : CaseRun) (t : Nat) : Option Nat :=
  let c := r.first + (t - r.target)
  if r.target ≤ t && r.covers c then some c else none

/-- The code points of the run, each with what it maps to. -/
def pairs (r : CaseRun) : List (Nat × Nat) :=
  (List.range ((r.last - r.first) / r.step + 1)).map fun k =>
    (r.first + r.step * k, r.target + r.step * k)

/-- What a code point maps to under some runs; one that is in no run stays. -/
def mapCode (runs : List CaseRun) (c : Nat) : Nat :=
  match runs.find? (·.covers c) with
  | some r => r.image c
  | none => c

end CaseRun

end Annotator.Text
