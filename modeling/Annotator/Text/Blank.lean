/-!
# Blanks

White space as the Unicode property `White_Space` has it, and trimming by it. The property is wider
than the white space of `Char.isWhitespace`, which it contains (`isBlank_of_isWhitespace`).
-/

namespace Annotator.Text

/-- The ranges of the code points with the property `White_Space`. -/
def blankRanges : List (Nat × Nat) :=
  [(0x9, 0xD), (0x20, 0x20), (0x85, 0x85), (0xA0, 0xA0), (0x1680, 0x1680), (0x2000, 0x200A),
   (0x2028, 0x2029), (0x202F, 0x202F), (0x205F, 0x205F), (0x3000, 0x3000)]

/-- Whether a character is white space. -/
def isBlank (c : Char) : Bool :=
  blankRanges.any fun r => r.1 ≤ c.toNat && c.toNat ≤ r.2

/-- The text without the blanks in front. -/
def trimLeft (text : List Char) : List Char :=
  text.dropWhile isBlank

/-- The text without the blanks at its end. -/
def trimRight (text : List Char) : List Char :=
  (text.reverse.dropWhile isBlank).reverse

/-- The text without the blanks at either end. -/
def trim (text : List Char) : List Char :=
  trimRight (trimLeft text)

theorem isBlank_of_isWhitespace {c : Char} (h : c.isWhitespace = true) : isBlank c = true := by
  simp only [Char.isWhitespace, Bool.or_eq_true, decide_eq_true_eq] at h
  rcases h with ((h | h) | h) | h <;> subst h <;> decide

/-- Trimming in front only removes. -/
theorem trimLeft_suffix (text : List Char) : trimLeft text <:+ text :=
  List.dropWhile_suffix isBlank

/-- Trimming at the end only removes. -/
theorem trimRight_prefix (text : List Char) : trimRight text <+: text := by
  have h := List.dropWhile_suffix (l := text.reverse) isBlank
  simpa [trimRight] using List.reverse_prefix.mpr h

end Annotator.Text
