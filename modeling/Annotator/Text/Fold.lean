import Annotator.Text.FoldTable

/-!
# Equality up to case

Simple case folding of characters. Two characters are spellings of the same letter when they fold to
the same code point, which is an equivalence (`foldEq_iff`); for ASCII letters the Kelvin sign and the
long s are spellings of `k` and `s`.
-/

namespace Annotator.Text

/-- The code point that stands for all spellings of a letter. -/
def foldCode (c : Nat) : Nat :=
  if c < 128 then (if 65 ≤ c && c ≤ 90 then c + 32 else c) else CaseRun.mapCode foldRuns c

/-- The code points that are folded to `t`, which is folded no further, and `t` itself, in ascending
order. -/
def codesFoldingTo (t : Nat) : List Nat :=
  let sources := foldRuns.filterMap (·.source? t)
  sources.filter (· < t) ++ t :: sources.filter (t < ·)

/-- The long s is a spelling of `s`, next to the capital letter. -/
example : codesFoldingTo 0x73 = [0x53, 0x73, 0x17F] := by decide +kernel

/-- Whether two characters are spellings of the same letter. -/
def foldEq (a b : Char) : Bool :=
  a == b || foldCode a.toNat == foldCode b.toNat

theorem foldEq_iff {a b : Char} : foldEq a b = true ↔ foldCode a.toNat = foldCode b.toNat := by
  simp only [foldEq, Bool.or_eq_true, beq_iff_eq]
  constructor
  · rintro (rfl | h)
    · rfl
    · exact h
  · exact Or.inr

theorem foldEq_refl (a : Char) : foldEq a a = true := by simp [foldEq]

theorem foldEq_comm (a b : Char) : foldEq a b = foldEq b a := by
  rw [Bool.eq_iff_iff, foldEq_iff, foldEq_iff, eq_comm]

/-- Whether a text is spelled like another, character by character up to case. -/
def foldEqText : List Char → List Char → Bool
  | [], [] => true
  | a :: s, b :: t => foldEq a b && foldEqText s t
  | _, _ => false

end Annotator.Text
