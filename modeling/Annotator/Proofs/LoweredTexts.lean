import Annotator.Proofs.SmallForms
import Annotator.Proofs.WrittenSets

/-!
# Texts in lowercase

No code point that has a lowercase is the lowercase of another. So whatever stands in a lowercased text
is its own lowercase wherever it stands, and lowercasing a second time changes nothing.

The lowercase of a sigma depends on the letters around it, and to find those, characters that do not
separate are passed over. At all other characters the search ends. So a text that is cut between two of
these may be lowercased part by part.

## Key results

- `Text.isLowered_of_mem_lowercase`: what stands in a lowercased text is its own lowercase
- `Text.lowercase_lowercase`, `Text.any_isUpper_lowercase`: a lowercased text has nothing left to
  lowercase, and no capital
- `Text.lowercase_append`: the lowercase of a text part by part
-/

namespace Annotator.Text

/-! ### Characters that are their own lowercase -/

/-- A character that is its own lowercase wherever it stands. -/
def IsLowered (c : Char) : Prop := ∀ was later, lowercaseAt was c later = [c]

theorem isLowered_of_code {n : Nat} (hn : IsSimple n) (hlower : lowerCode n = n) :
    IsLowered (Char.ofNat n) := by
  have hcode : (Char.ofNat n).toNat = n := by
    rw [Char.ofNat, dif_pos hn.1]
    rfl
  exact (IsForm.of_code (c := Char.ofNat n) hn (by rw [hcode]) hlower).lowercaseAt_eq

/-- No run of lowercase leads to a code point of a run. -/
private theorem lowercaseRuns_misses :
    lowercaseRuns.all (fun r => lowercaseRuns.all r.misses) = true := by
  decide +kernel

/-- No run of lowercase leads to the dotted capital, or to what is no character. -/
private theorem lowercaseRuns_proper :
    ∀ r ∈ lowercaseRuns, r.misses ⟨0x130, 0x130, 1, 0x130⟩ = true ∧
      (r.target + (r.last - r.first) < 0xD800 ∨
        0xE000 ≤ r.target ∧ r.target + (r.last - r.first) < 0x110000) := by
  decide +kernel

/-- What a code point has for its lowercase is its own lowercase. -/
theorem lowerCode_lowerCode (n : Nat) : lowerCode (lowerCode n) = lowerCode n := by
  by_cases hn : ∃ r ∈ lowercaseRuns, r.covers n = true
  · obtain ⟨r, hr, hn⟩ := hn
    rw [lowerCode_of_covers hr hn]
    exact lowerCode_of_not_covers fun q hq =>
      CaseRun.covers_image_of_all_misses lowercaseRuns_misses hr hq hn
  · have hstays : lowerCode n = n := lowerCode_of_not_covers (by simpa using hn)
    rw [hstays, hstays]

/-- The lowercase of a character other than the dotted capital and the sigma is neither of these. -/
theorem isSimple_lowerCode {c : Char} (hdotted : c.toNat ≠ 0x130) (hsigma : c ≠ 'Σ') :
    IsSimple (lowerCode c.toNat) := by
  by_cases hc : ∃ r ∈ lowercaseRuns, r.covers c.toNat = true
  · obtain ⟨r, hr, hc⟩ := hc
    obtain ⟨hmiss, hvalid⟩ := lowercaseRuns_proper r hr
    have hne : r.image c.toNat ≠ 0x130 := by
      intro heq
      have := CaseRun.covers_image_of_misses hmiss hc
      rw [heq] at this
      exact absurd this (by decide)
    have hfixed := lowerCode_lowerCode c.toNat
    rw [lowerCode_of_covers hr hc] at hfixed ⊢
    refine ⟨?_, hne, ?_⟩
    · obtain ⟨hfirst, hlast, -⟩ := CaseRun.covers_iff.mp hc
      unfold Nat.isValidChar CaseRun.image
      omega
    · -- the sigma is not its own lowercase
      intro heq
      rw [heq] at hfixed
      exact absurd hfixed (by decide +kernel)
  · rw [lowerCode_of_not_covers (by simpa using hc)]
    exact ⟨c.valid, hdotted, fun heq => hsigma (Char.toNat_inj.mp heq)⟩

/-- The lowercase of a character has only characters that are their own lowercase. -/
theorem isLowered_of_mem_lowercaseAt {was : Bool} {c d : Char} {later : List Char}
    (h : d ∈ lowercaseAt was c later) : IsLowered d := by
  by_cases hsigma : c = 'Σ'
  · rw [lowercaseAt, if_pos (beq_iff_eq.mpr hsigma)] at h
    split at h
    · obtain rfl := List.mem_singleton.mp h
      exact isLowered_of_code (n := 0x3C2) (by decide) (by decide +kernel)
    · obtain rfl := List.mem_singleton.mp h
      exact isLowered_of_code (n := 0x3C3) (by decide) (by decide +kernel)
  · rw [lowercaseAt, if_neg (by simpa using hsigma)] at h
    by_cases hdotted : c.toNat = 0x130
    · -- an `i` and a dot above
      have hparts : lowercaseChar c = [Char.ofNat 0x69, Char.ofNat 0x307] := by
        rw [lowercaseChar, hdotted]
        rfl
      rw [hparts, List.mem_pair] at h
      rcases h with rfl | rfl
      · exact isLowered_of_code (by decide) (by decide +kernel)
      · exact isLowered_of_code (by decide) (by decide +kernel)
    · rw [lowercaseChar_eq hdotted, List.mem_singleton] at h
      subst h
      exact isLowered_of_code (isSimple_lowerCode hdotted hsigma) (lowerCode_lowerCode c.toNat)

theorem isWord_of_isUpper {c : Char} (h : c.isUpper = true) : isWord c = true := by
  show ((c.isUpper || c.isLower) || c.isDigit || c == '_') = true
  rw [h, Bool.true_or, Bool.true_or, Bool.true_or]

/-- A character that is its own lowercase is no capital of ASCII. -/
theorem IsLowered.isUpper_eq_false {c : Char} (h : IsLowered c) : c.isUpper = false := by
  have hcapitals : ∀ n < 128, (Char.ofNat n).isUpper = true →
      lowercaseAt false (Char.ofNat n) [] ≠ [Char.ofNat n] := by
    decide +kernel
  rw [Bool.eq_false_iff]
  intro hupper
  have hne := hcapitals c.toNat (Spacing.toNat_lt_of_isWord (isWord_of_isUpper hupper))
  rw [Char.ofNat_toNat] at hne
  exact hne hupper (h false [])

/-! ### Lowercasing twice -/

/-- What stands in a lowercased text is its own lowercase. -/
theorem isLowered_of_mem_lowercase {text : List Char} {d : Char} (h : d ∈ lowercase text) :
    IsLowered d := by
  unfold lowercase at h
  generalize false = was at h
  induction text generalizing was with
  | nil => cases h
  | cons c later ih =>
    rw [lowercaseOnto_cons, List.mem_append] at h
    rcases h with h | h
    · exact isLowered_of_mem_lowercaseAt h
    · exact ih _ h

/-- A text of characters that are their own lowercase is its own lowercase. -/
theorem lowercase_of_isLowered {text : List Char} (h : ∀ c ∈ text, IsLowered c) :
    lowercase text = text := by
  unfold lowercase
  generalize false = was
  induction text generalizing was with
  | nil => rfl
  | cons c later ih =>
    obtain ⟨hc, hlater⟩ := List.forall_mem_cons.mp h
    rw [lowercaseOnto_cons, hc, ih hlater, List.singleton_append]

/-- Lowercasing twice is lowercasing once. -/
theorem lowercase_lowercase (text : List Char) : lowercase (lowercase text) = lowercase text :=
  lowercase_of_isLowered fun _ h => isLowered_of_mem_lowercase h

/-- A lowercased text has no capitals of ASCII. -/
theorem any_isUpper_lowercase (text : List Char) : (lowercase text).any Char.isUpper = false :=
  List.any_eq_false.mpr fun _ h => by simp [(isLowered_of_mem_lowercase h).isUpper_eq_false]

/-! ### Lowercasing part by part -/

/-- A character that separates what stands before it from what follows, and has itself the same
lowercase wherever it stands. -/
structure IsFirm (c : Char) : Prop where
  ne_sigma : c ≠ 'Σ'
  separates : Unicode.Latest.caseIgnorable.contains c.toNat = false

/-- A character of ASCII is firm if it is none of some marks. -/
theorem isFirm_of_ascii {c : Char} (hc : c.toNat < 128)
    (hmark : c.toNat ∉ Unicode.Latest.ignorableMarks) : IsFirm c where
  ne_sigma heq := by
    rw [heq] at hc
    exact absurd hc (by decide)
  separates := by
    rw [Bool.eq_false_iff]
    exact fun h => hmark (Unicode.Latest.mem_ignorableMarks hc h)

/-- The characters of words are firm. -/
theorem isFirm_of_isWord {c : Char} (h : isWord c = true) : IsFirm c := by
  have hwords : ∀ n < 128, isWord (Char.ofNat n) = true → n ∉ Unicode.Latest.ignorableMarks := by
    decide
  have hc := Spacing.toNat_lt_of_isWord h
  exact isFirm_of_ascii hc (hwords c.toNat hc (by rwa [Char.ofNat_toNat]))

theorem IsFirm.lowercaseAt_eq {c : Char} (h : IsFirm c) (was : Bool) (later : List Char) :
    lowercaseAt was c later = lowercaseChar c := by
  rw [lowercaseAt, if_neg (by simpa using h.ne_sigma)]

theorem IsFirm.casedAfter_eq {c : Char} (h : IsFirm c) (was was' : Bool) :
    casedAfter was c = casedAfter was' c := by
  simp only [casedAfter, h.separates, Bool.false_eq_true, if_false]

/-- Behind a firm character nothing more is looked at. -/
theorem casedNext_append {x : List Char} (hne : x ≠ []) (hx : ∀ c ∈ x.getLast?, IsFirm c)
    (y : List Char) : casedNext (x ++ y) = casedNext x := by
  induction x with
  | nil => exact absurd rfl hne
  | cons c x ih =>
    rw [List.cons_append, casedNext, casedNext]
    split
    · rename_i hc
      -- the last character is a later one, since this one does not separate
      have hx' : x ≠ [] := by
        rintro rfl
        rw [(hx c rfl).separates] at hc
        cases hc
      rw [List.getLast?_cons_of_ne_nil hx'] at hx
      exact ih hx' hx
    · rfl

/-- In front of a firm character nothing more is looked at. -/
theorem lowercaseOnto_of_firm {y : List Char} (hy : ∀ c ∈ y.head?, IsFirm c) (was was' : Bool) :
    lowercaseOnto [] was y = lowercaseOnto [] was' y := by
  cases y with
  | nil => rfl
  | cons c later =>
    have hc := hy c rfl
    rw [lowercaseOnto_cons, lowercaseOnto_cons, hc.lowercaseAt_eq, hc.lowercaseAt_eq,
      hc.casedAfter_eq was was']

/-- The lowercase of the rest of a text part by part, whatever stands before the parts. -/
theorem lowercaseOnto_append {x y : List Char} (hx : ∀ c ∈ x.getLast?, IsFirm c)
    (hy : ∀ c ∈ y.head?, IsFirm c) (was was' : Bool) :
    lowercaseOnto [] was (x ++ y) = lowercaseOnto [] was x ++ lowercaseOnto [] was' y := by
  induction x generalizing was with
  | nil => exact lowercaseOnto_of_firm hy was was'
  | cons c x ih =>
    rw [List.cons_append, lowercaseOnto_cons, lowercaseOnto_cons, List.append_assoc]
    by_cases hne : x = []
    · subst hne
      have hc := hx c rfl
      rw [hc.lowercaseAt_eq, hc.lowercaseAt_eq]
      exact congrArg _ (lowercaseOnto_of_firm hy (casedAfter was c) was')
    · rw [List.getLast?_cons_of_ne_nil hne] at hx
      rw [ih hx, lowercaseAt, lowercaseAt, casedNext_append hne hx]

/-- The lowercase of a text part by part: where the first part ends and the second begins with a firm
character, neither has a letter that the other decides on. -/
theorem lowercase_append {x y : List Char} (hx : ∀ c ∈ x.getLast?, IsFirm c)
    (hy : ∀ c ∈ y.head?, IsFirm c) : lowercase (x ++ y) = lowercase x ++ lowercase y :=
  lowercaseOnto_append hx hy false false

end Annotator.Text
