import Annotator.ClassName
import Annotator.Text.Blank
import Annotator.Text.Fold
import Annotator.Text.Word

/-!
# What case mappings leave alone

The runs of case mappings lead to small letters and beyond, never to brackets, digits or other marks
below them. So lowercasing makes no angle bracket, and a mark has no spelling but itself.

## Key results

- `Text.eq_of_foldEq_mark`: a mark is spelled only as itself
- `Text.isBlank_eq_of_foldEq`: a blank is spelled only with blanks
- `ClassName.mem_of_mem_kebab`: a class name has no angle bracket that its type does not have
-/

namespace Annotator

namespace Text

/-- A character in front of the letters, but not the null character. -/
def IsMark (c : Char) : Prop := 0 < c.toNat ∧ c.toNat < 65

instance (c : Char) : Decidable (IsMark c) :=
  inferInstanceAs (Decidable (0 < c.toNat ∧ c.toNat < 65))

theorem CaseRun.mapCode_eq_or_le {runs : List CaseRun} {n : Nat}
    (h : ∀ r ∈ runs, n ≤ r.target) (c : Nat) : CaseRun.mapCode runs c = c ∨ n ≤ CaseRun.mapCode runs c := by
  unfold CaseRun.mapCode
  split
  · rename_i r hr
    have := h r (List.mem_of_find?_eq_some hr)
    exact .inr (by unfold CaseRun.image; omega)
  · exact .inl rfl

private theorem foldRuns_target : ∀ r ∈ foldRuns, 97 ≤ r.target := by decide +kernel

private theorem lowercaseRuns_target : ∀ r ∈ lowercaseRuns, 97 ≤ r.target := by decide +kernel

theorem foldCode_eq_or_le (c : Nat) : foldCode c = c ∨ 97 ≤ foldCode c := by
  unfold foldCode
  split
  · split
    · rename_i h
      simp only [Bool.and_eq_true, decide_eq_true_eq] at h
      omega
    · exact .inl rfl
  · exact CaseRun.mapCode_eq_or_le foldRuns_target c

/-- A mark is spelled only as itself. -/
theorem eq_of_foldEq_mark {a b : Char} (ha : IsMark a) (h : foldEq a b = true) : a = b := by
  have ⟨_, hlt⟩ := ha
  rw [foldEq_iff] at h
  have hfold : foldCode a.toNat = a.toNat := by
    unfold foldCode
    rw [if_pos (by omega)]
    simp only [Bool.and_eq_true, decide_eq_true_eq, ite_eq_right_iff]
    omega
  have := foldCode_eq_or_le b.toNat
  exact Char.toNat_inj.mp (by omega)

theorem foldEq_trans {a b c : Char} (h : foldEq a b = true) (h' : foldEq b c = true) :
    foldEq a c = true := by
  rw [foldEq_iff] at h h' ⊢
  exact h.trans h'

/-! ### Spellings of ASCII characters -/

/-- Beyond ASCII only the long s and the Kelvin sign are spellings of ASCII characters. -/
private theorem foldRuns_ascii : ∀ r ∈ foldRuns, 128 ≤ r.target ∨ r.last < 128 ∨
    r.first = r.last ∧ (r.first = 0x17F ∨ r.first = 0x212A) := by decide +kernel

theorem foldCode_lt_cases {n : Nat} (h : foldCode n < 128) : n < 128 ∨ n = 0x17F ∨ n = 0x212A := by
  by_cases hn : n < 128
  · exact .inl hn
  · right
    rw [foldCode, if_neg hn, CaseRun.mapCode] at h
    split at h
    · rename_i r hr
      have hmem := foldRuns_ascii r (List.mem_of_find?_eq_some hr)
      have hcovers := List.find?_some hr
      simp only [CaseRun.covers, Bool.and_eq_true, decide_eq_true_eq] at hcovers
      rw [CaseRun.image] at h
      omega
    · omega

/-- The small letter of an ASCII character is what it folds to. -/
private theorem fold_ascii : ∀ n < 128, foldCode n < 128 ∧
    (Char.ofNat n).toLower = Char.ofNat (foldCode n) ∧
    isWord (Char.ofNat n) = isWord (Char.ofNat (foldCode n)) := by decide

theorem foldCode_lt {a : Char} (ha : a.toNat < 128) : foldCode a.toNat < 128 :=
  (fold_ascii a.toNat ha).1

/-- Two spellings of an ASCII character have the same small letter. -/
theorem toLower_eq_of_foldEq {a b : Char} (ha : a.toNat < 128) (hb : b.toNat < 128)
    (h : foldEq a b = true) : a.toLower = b.toLower := by
  rw [foldEq_iff] at h
  have ha := (fold_ascii a.toNat ha).2.1
  have hb := (fold_ascii b.toNat hb).2.1
  rw [Char.ofNat_toNat] at ha hb
  rw [ha, hb, h]

/-- But for the long s and the Kelvin sign, a spelling of an ASCII character is one of words if the
character is. -/
theorem isWord_eq_of_foldEq {a b : Char} (ha : a.toNat < 128) (hs : b ≠ '\u017F')
    (hk : b ≠ '\u212A') (h : foldEq a b = true) : isWord b = isWord a := by
  have hlt := foldCode_lt ha
  rw [foldEq_iff.mp h] at hlt
  rcases foldCode_lt_cases hlt with hb | hb | hb
  · have ha := (fold_ascii a.toNat ha).2.2
    have hb := (fold_ascii b.toNat hb).2.2
    rw [Char.ofNat_toNat] at ha hb
    rw [ha, hb, foldEq_iff.mp h]
  · exact absurd (Char.toNat_inj.mp hb) hs
  · exact absurd (Char.toNat_inj.mp hb) hk

/-! ### Small letters in ASCII -/

/-- What holds of every character with itself, and of the ASCII characters with their small letters,
holds of every character with its small letter. -/
theorem toLower_of_ascii {P : Char → Char → Prop} (hself : ∀ c, P c c)
    (hascii : ∀ n < 128, P (Char.ofNat n) (Char.ofNat n).toLower) (c : Char) : P c c.toLower := by
  by_cases hc : c.toNat < 128
  · have := hascii c.toNat hc
    rwa [Char.ofNat_toNat] at this
  · have hlower : c.toLower = c := by
      unfold Char.toLower
      split
      · rename_i h
        have hle : c.toNat ≤ 'Z'.toNat := UInt32.le_iff_toNat_le.mp h.2
        exact absurd (Nat.lt_of_le_of_lt hle (by decide)) hc
      · rfl
    rw [hlower]
    exact hself c

theorem toLower_toLower (c : Char) : c.toLower.toLower = c.toLower :=
  toLower_of_ascii (P := fun c d => d.toLower = c.toLower) (fun _ => rfl) (by decide) c

theorem isWord_toLower (c : Char) : isWord c.toLower = isWord c :=
  toLower_of_ascii (P := fun c d => isWord d = isWord c) (fun _ => rfl) (by decide) c

theorem wordBoundary_toLower (x y : Option Char) :
    wordBoundary (x.map Char.toLower) (y.map Char.toLower) = wordBoundary x y := by
  simp only [wordBoundary, Option.any_map, isWord_toLower]

/-- A small letter is a spelling of whatever its capital is one of. -/
theorem foldEq_toLower (a b : Char) : foldEq a b.toLower = foldEq a b := by
  have hfold : foldCode b.toLower.toNat = foldCode b.toNat :=
    toLower_of_ascii (P := fun c d => foldCode d.toNat = foldCode c.toNat) (fun _ => rfl)
      (by decide) b
  rw [Bool.eq_iff_iff, foldEq_iff, foldEq_iff, hfold]

/-- The small letter of a character is a mark only if the character is that mark. -/
theorem toLower_eq_mark_iff {c d : Char} (hd : IsMark d) : c.toLower = d ↔ c = d := by
  refine toLower_of_ascii (P := fun c e => e = d ↔ c = d) (fun _ => Iff.rfl) (fun n hn => ?_) c
  have hsmall : ∀ n < 128, (Char.ofNat n).toLower = Char.ofNat n ∨
      ¬ IsMark (Char.ofNat n).toLower ∧ ¬ IsMark (Char.ofNat n) := by decide
  rcases hsmall n hn with h | ⟨h, h'⟩
  · rw [h]
  · exact iff_of_false (fun heq => h (heq ▸ hd)) (fun heq => h' (heq ▸ hd))

/-! ### Spellings of blanks -/

/-- No run of the case folding has blanks, or leads to some. -/
private theorem foldRuns_blank : ∀ r ∈ foldRuns, ∀ b ∈ blankRanges,
    (r.last < b.1 ∨ b.2 < r.first) ∧ (r.image r.last < b.1 ∨ b.2 < r.target) := by decide +kernel

private theorem foldCode_blank_ascii : ∀ n < 128,
    (blankRanges.any fun r => r.1 ≤ foldCode n && foldCode n ≤ r.2) =
      blankRanges.any fun r => r.1 ≤ n && n ≤ r.2 := by decide

/-- Folding leads from blanks to blanks, and from others to others. -/
theorem foldCode_blank (n : Nat) :
    (blankRanges.any fun r => r.1 ≤ foldCode n && foldCode n ≤ r.2) =
      blankRanges.any fun r => r.1 ≤ n && n ≤ r.2 := by
  by_cases hn : n < 128
  · exact foldCode_blank_ascii n hn
  · rw [foldCode, if_neg hn, CaseRun.mapCode]
    split
    · rename_i r hr
      have hruns := foldRuns_blank r (List.mem_of_find?_eq_some hr)
      have hcovers := List.find?_some hr
      simp only [CaseRun.covers, Bool.and_eq_true, decide_eq_true_eq] at hcovers
      -- neither what folds nor what it folds to is a blank
      have hnone {m : Nat} (h : ∀ b ∈ blankRanges, m < b.1 ∨ b.2 < m) :
          (blankRanges.any fun b => b.1 ≤ m && m ≤ b.2) = false := by
        rw [List.any_eq_false]
        intro b hb
        have := h b hb
        simp only [Bool.and_eq_true, decide_eq_true_eq]
        omega
      rw [hnone fun b hb => ?_, hnone fun b hb => ?_]
      · have := (hruns b hb).1
        omega
      · have := (hruns b hb).2
        simp only [CaseRun.image] at this ⊢
        omega
    · rfl

/-- Spellings of blanks are blanks, and those of other characters are none. -/
theorem isBlank_eq_of_foldEq {a b : Char} (h : foldEq a b = true) : isBlank a = isBlank b := by
  rw [isBlank, isBlank, ← foldCode_blank a.toNat, foldEq_iff.mp h, foldCode_blank b.toNat]

/-! ### Lowercase -/

/-- The lowercase of an ASCII text, character by character. -/
theorem lowercase_of_ascii {text : List Char} (h : ∀ c ∈ text, c.toNat < 128) :
    lowercase text = text.map Char.toLower := by
  unfold lowercase
  generalize false = was
  induction text generalizing was with
  | nil => rfl
  | cons c later ih =>
    obtain ⟨hc, hlater⟩ := List.forall_mem_cons.mp h
    have hsigma : ¬ (c == 'Σ') = true := by
      intro heq
      rw [beq_iff_eq.mp heq] at hc
      exact absurd hc (by decide)
    rw [lowercaseOnto, lowercaseOnto_eq, ih hlater, lowercaseAt, if_neg hsigma, lowercaseChar,
      if_pos hc]
    rfl

private theorem toNat_ofNat_cases (n : Nat) :
    (Char.ofNat n).toNat = n ∨ (Char.ofNat n).toNat = 0 := by
  by_cases h : n.isValidChar
  · rw [Char.ofNat, dif_pos h]
    exact .inl rfl
  · rw [Char.ofNat, dif_neg h]
    exact .inr rfl

/-- The lowercase of a character has no mark unless the character is that mark. -/
theorem eq_of_mem_lowercaseChar {c d : Char} (hd : IsMark d) (h : d ∈ lowercaseChar c) : d = c := by
  have ⟨hpos, hlt⟩ := hd
  unfold lowercaseChar at h
  split at h
  · rw [List.mem_singleton] at h
    exact ((toLower_eq_mark_iff hd).mp h.symm).symm
  · rename_i hc
    split at h
    · -- the two parts of the lowercase of the dotted capital are no marks
      rcases List.mem_cons.mp h with rfl | h
      · exact absurd hlt (by decide)
      · rw [List.mem_singleton] at h
        subst h
        exact absurd hlt (by decide)
    · rw [List.mem_singleton] at h
      subst h
      have := toNat_ofNat_cases (CaseRun.mapCode lowercaseRuns c.toNat)
      have := CaseRun.mapCode_eq_or_le lowercaseRuns_target c.toNat
      omega

/-- A mark of the lowercase of a text is one of the text. -/
theorem mem_of_mem_lowercase {text : List Char} {d : Char} (hd : IsMark d)
    (h : d ∈ lowercase text) : d ∈ text := by
  unfold lowercase at h
  generalize false = was at h
  induction text generalizing was with
  | nil => simp [lowercaseOnto] at h
  | cons c later ih =>
    rw [lowercaseOnto, lowercaseOnto_eq] at h
    simp only [List.append_nil, List.reverse_reverse, List.mem_append] at h
    rcases h with h | h
    · unfold lowercaseAt at h
      have hlt := hd.2
      split at h
      · -- neither small sigma is a mark
        split at h <;> rw [List.mem_singleton] at h <;> subst h <;> exact absurd hlt (by decide)
      · exact eq_of_mem_lowercaseChar hd h ▸ List.mem_cons_self
    · exact List.mem_cons_of_mem c (ih _ h)

end Text

namespace ClassName

private theorem mem_of_mem_split {d : Char} (hd : d ≠ '-') (c : Cut)
    (h : d ∈ c.replace split) : d ∈ c.text := by
  induction c with
  | rest t => exact h
  | hit b m g a ih =>
    simp only [Cut.replace, split, List.mem_append, List.mem_cons, Cut.text_hit] at h ⊢
    rcases h with (h | h | h | h) | h
    · exact .inl (.inl h)
    · exact .inl (.inr (List.mem_of_mem_take h))
    · exact absurd h hd
    · exact .inl (.inr (List.mem_of_mem_drop h))
    · exact .inr (ih h)

/-- A mark of a class name other than the hyphen is one of the name of its type. -/
theorem mem_of_mem_kebab {name : List Char} {d : Char} (hd : Text.IsMark d) (hne : d ≠ '-')
    (h : d ∈ kebab name) : d ∈ name := by
  have := mem_of_mem_split hne _ (Text.mem_of_mem_lowercase hd h)
  rwa [Search.text_cut] at this

end ClassName

end Annotator
