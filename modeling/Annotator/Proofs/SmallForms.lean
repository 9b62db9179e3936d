import Annotator.Proofs.FoldSpellings
import Annotator.Proofs.Settled
import Annotator.Text.Lowercase

/-!
# Letters with two small forms

There are two ways to leave the case of letters aside: to compare texts character by character up to
case, and to compare their lowercase. Some letters have more than one small form, as the sigma has a
form for the end of a word and the `s` the long s. The forms of such a letter are spellings of one
another, but each is its own lowercase, and so the two ways part. For all other letters the spellings
have one lowercase, and the two ways agree.

The tables of case folding and of lowercase share most of their runs. What the table of folding has
alone are the second forms, but for one run that the other table has with more letters in it.

## Key results

- `Text.lowercaseChar_congr`: the spellings of a letter with one small form have one lowercase
- `Text.hasTwoForms_iff`: a letter with two small forms has two spellings that are their own lowercase
- `Text.lowercase_congr_iff`: all spellings of a text have its lowercase just if no letter of it has two
  small forms
-/

namespace Annotator.Text

/-- The small letters that are a second form of a letter, each with the first form, which both fold
to. -/
def secondForms : List (Nat × Nat) := [
  (0xB5, 0x3BC), (0x17F, 0x73), (0x345, 0x3B9), (0x3C2, 0x3C3), (0x3D0, 0x3B2), (0x3D1, 0x3B8),
  (0x3D5, 0x3C6), (0x3D6, 0x3C0), (0x3F0, 0x3BA), (0x3F1, 0x3C1), (0x3F5, 0x3B5), (0x1C80, 0x432),
  (0x1C81, 0x434), (0x1C82, 0x43E), (0x1C83, 0x441), (0x1C84, 0x442), (0x1C85, 0x442),
  (0x1C86, 0x44A), (0x1C87, 0x463), (0x1C88, 0xA64B), (0x1E9B, 0x1E61), (0x1FBE, 0x3B9),
  (0x1FD3, 0x390), (0x1FE3, 0x3B0), (0xFB06, 0xFB05)]

/-- A letter with more than one small form. -/
def HasTwoForms (c : Char) : Prop := foldCode c.toNat ∈ secondForms.map Prod.snd

instance (c : Char) : Decidable (HasTwoForms c) :=
  inferInstanceAs (Decidable (foldCode c.toNat ∈ secondForms.map Prod.snd))

theorem HasTwoForms.of_foldEq {a b : Char} (h : HasTwoForms a) (hab : foldEq a b = true) :
    HasTwoForms b := by
  rwa [HasTwoForms, ← foldEq_iff.mp hab]

/-! ### The runs of the two tables -/

/-- A run of second forms. -/
def CaseRun.isSecond (r : CaseRun) : Bool := secondForms.any fun p => p.1 == r.first

/-- A run that only one of the tables has as it is, though it has no second forms. -/
def CaseRun.isApart (r : CaseRun) : Bool :=
  [0xA7CC, 0xA7D0, 0xA7D6, 0x16EA0].contains r.first

/-- The runs of second forms have just the second forms. -/
private theorem pairs_isSecond :
    (foldRuns.filter CaseRun.isSecond).flatMap CaseRun.pairs = secondForms := by
  decide +kernel

/-- The other runs are the same in both tables, but for some. -/
private theorem runs_shared :
    foldRuns.filter (fun r => !r.isSecond && !r.isApart) =
      lowercaseRuns.filter fun r => !r.isApart := by
  decide +kernel

/-- The runs of lowercase ascend. -/
private theorem lowercaseRuns_ascend : lowercaseRuns.Pairwise fun a b => a.last < b.first :=
  CaseRun.pairwise_of_isChain (by decide +kernel)

/-- The lowercase of a code point that has one code point for its lowercase. -/
def lowerCode (n : Nat) : Nat := CaseRun.mapCode lowercaseRuns n

theorem lowerCode_of_covers {r : CaseRun} (hr : r ∈ lowercaseRuns) {n : Nat}
    (hn : r.covers n = true) : lowerCode n = r.image n :=
  CaseRun.mapCode_of_covers lowercaseRuns_ascend hr hn

theorem lowerCode_of_not_covers {n : Nat} (h : ∀ r ∈ lowercaseRuns, r.covers n = false) :
    lowerCode n = n :=
  CaseRun.mapCode_of_not_covers h

/-- What a code point folds to is its lowercase, unless it is a second form. -/
theorem lowerCode_of_fold {r : CaseRun} (hr : r ∈ foldRuns) {n : Nat} (hn : r.covers n = true) :
    lowerCode n = r.image n ∨ (n, r.image n) ∈ secondForms := by
  have hapart : ∀ r ∈ foldRuns, r.isApart = true → ∀ p ∈ r.pairs, lowerCode p.1 = p.2 := by
    decide +kernel
  obtain ⟨hstep, hle, -⟩ := foldRuns_proper r hr
  have hpair : (n, r.image n) ∈ r.pairs := (CaseRun.mem_pairs hstep hle).mpr ⟨hn, rfl⟩
  by_cases hsecond : r.isSecond = true
  · right
    rw [← pairs_isSecond]
    exact List.mem_flatMap.mpr ⟨r, List.mem_filter.mpr ⟨hr, hsecond⟩, hpair⟩
  · left
    by_cases hr' : r.isApart = true
    · exact hapart r hr hr' _ hpair
    · have hmem : r ∈ foldRuns.filter fun r => !r.isSecond && !r.isApart :=
        List.mem_filter.mpr ⟨hr, by simp [hsecond, hr']⟩
      rw [runs_shared] at hmem
      exact lowerCode_of_covers (List.mem_of_mem_filter hmem) hn

/-- What a code point folds to is its own lowercase. -/
theorem lowerCode_image {r : CaseRun} (hr : r ∈ foldRuns) {n : Nat} (hn : r.covers n = true) :
    lowerCode (r.image n) = r.image n := by
  have hapart : foldRuns.all (fun r => (lowercaseRuns.filter CaseRun.isApart).all r.misses) = true := by
    decide +kernel
  apply lowerCode_of_not_covers
  intro q hq
  by_cases hq' : q.isApart = true
  · exact CaseRun.covers_image_of_all_misses hapart hr (List.mem_filter.mpr ⟨hq, hq'⟩) hn
  · -- a run that both tables have is missed since folding twice is folding once
    have hmem : q ∈ lowercaseRuns.filter fun r => !r.isApart :=
      List.mem_filter.mpr ⟨hq, by simp [hq']⟩
    rw [← runs_shared] at hmem
    exact CaseRun.covers_image_of_all_misses foldRuns_misses hr (List.mem_of_mem_filter hmem) hn

/-- The two forms of a pair fold to the same and are their own lowercase. -/
theorem lowerCode_secondForms :
    ∀ p ∈ secondForms, foldCode p.1 = p.2 ∧ lowerCode p.1 = p.1 ∧ lowerCode p.2 = p.2 := by
  decide +kernel

/-- The lowercase of a code point that is no second form is that of what it folds to. -/
theorem lowerCode_foldCode {n : Nat} (h : foldCode n ∉ secondForms.map Prod.snd) :
    lowerCode (foldCode n) = lowerCode n := by
  by_cases hn : ∃ r ∈ foldRuns, r.covers n = true
  · obtain ⟨r, hr, hn⟩ := hn
    rw [foldCode_of_covers hr hn] at h ⊢
    rw [lowerCode_image hr hn]
    rcases lowerCode_of_fold hr hn with heq | hmem
    · exact heq.symm
    · exact absurd (List.mem_map_of_mem hmem) h
  · rw [foldCode_of_not_covers (by simpa using hn)]

/-! ### Characters -/

/-- Every character but the capital dotted I has one character for its lowercase. -/
theorem lowercaseChar_eq {c : Char} (h : c.toNat ≠ 0x130) :
    lowercaseChar c = [Char.ofNat (lowerCode c.toNat)] := by
  have hascii : ∀ n < 128, (Char.ofNat n).toLower = Char.ofNat (lowerCode n) := by decide +kernel
  rw [lowercaseChar]
  split
  · rename_i hc
    have := hascii c.toNat hc
    rw [Char.ofNat_toNat] at this
    rw [this]
  · rw [if_neg (by simpa using h)]
    rfl

/-- The capital dotted I is spelled only as itself. -/
theorem foldCode_eq_dotted_iff {n : Nat} : foldCode n = 0x130 ↔ n = 0x130 := by
  have hruns : (foldRuns.all fun r => r.misses ⟨0x130, 0x130, 1, 0x130⟩ && !r.covers 0x130) = true := by
    decide +kernel
  simp only [List.all_eq_true, Bool.and_eq_true, Bool.not_eq_true'] at hruns
  constructor
  · intro h
    by_cases hn : ∃ r ∈ foldRuns, r.covers n = true
    · obtain ⟨r, hr, hn⟩ := hn
      have hmiss := CaseRun.covers_image_of_misses (hruns r hr).1 hn
      rw [← foldCode_of_covers hr hn, h] at hmiss
      exact absurd hmiss (by decide)
    · rwa [foldCode_of_not_covers (by simpa using hn)] at h
  · intro h
    rw [h, foldCode_of_not_covers fun r hr => (hruns r hr).2]

/-- The spellings of a letter with one small form have one lowercase. -/
theorem lowercaseChar_congr {a b : Char} (h : foldEq a b = true) (ha : ¬ HasTwoForms a) :
    lowercaseChar a = lowercaseChar b := by
  have hb : ¬ HasTwoForms b := fun hb => ha (hb.of_foldEq (foldEq_comm a b ▸ h))
  rw [foldEq_iff] at h
  by_cases hdotted : a.toNat = 0x130
  · rw [foldCode_eq_dotted_iff.mpr hdotted, eq_comm, foldCode_eq_dotted_iff] at h
    rw [Char.toNat_inj.mp (hdotted.trans h.symm)]
  · have hdotted' : b.toNat ≠ 0x130 := by
      intro hb
      rw [foldCode_eq_dotted_iff.mpr hb] at h
      exact hdotted (foldCode_eq_dotted_iff.mp h)
    rw [lowercaseChar_eq hdotted, lowercaseChar_eq hdotted', ← lowerCode_foldCode ha, h,
      lowerCode_foldCode hb]

/-- A small form of a letter: a spelling of it that is its own lowercase, wherever it stands. -/
structure IsForm (c d : Char) : Prop where
  foldEq : foldEq c d = true
  lowercaseAt_eq : ∀ was later, lowercaseAt was d later = [d]

/-- A character whose lowercase is one character, the same everywhere. -/
def IsSimple (n : Nat) : Prop := n.isValidChar ∧ n ≠ 0x130 ∧ n ≠ 0x3A3

instance (n : Nat) : Decidable (IsSimple n) :=
  inferInstanceAs (Decidable (n.isValidChar ∧ n ≠ 0x130 ∧ n ≠ 0x3A3))

/-- A code point that is its own lowercase is a small form of the letters that fold to the same. -/
theorem IsForm.of_code {c : Char} {n : Nat} (hn : IsSimple n) (hfold : foldCode n = foldCode c.toNat)
    (hlower : lowerCode n = n) : IsForm c (Char.ofNat n) := by
  obtain ⟨hvalid, hdotted, hsigma⟩ := hn
  have hcode : (Char.ofNat n).toNat = n := by
    rw [Char.ofNat, dif_pos hvalid]
    rfl
  constructor
  · rw [foldEq_iff, hcode, hfold]
  · intro was later
    have hne : (Char.ofNat n == 'Σ') = false := by
      rw [beq_eq_false_iff_ne, ← Char.toNat_inj.ne, hcode]
      exact hsigma
    rw [lowercaseAt, hne, lowercaseChar_eq (by rw [hcode]; exact hdotted), hcode, hlower]
    rfl

/-- A letter with two small forms has them. -/
theorem HasTwoForms.exists_forms {c : Char} (h : HasTwoForms c) :
    ∃ a b, a ≠ b ∧ IsForm c a ∧ IsForm c b := by
  have hsimple : ∀ p ∈ secondForms,
      Char.ofNat p.1 ≠ Char.ofNat p.2 ∧ IsSimple p.1 ∧ IsSimple p.2 := by
    decide
  obtain ⟨⟨s, t⟩, hmem, ht⟩ := List.mem_map.mp h
  obtain ⟨hne, hs, ht'⟩ := hsimple _ hmem
  obtain ⟨hfold, hlower, hlower'⟩ := lowerCode_secondForms _ hmem
  refine ⟨Char.ofNat s, Char.ofNat t, hne, .of_code hs (hfold.trans ht) hlower,
    .of_code ht' ?_ hlower'⟩
  calc foldCode t = foldCode (foldCode s) := by rw [hfold]
    _ = foldCode s := foldCode_foldCode s
    _ = foldCode c.toNat := hfold.trans ht

/-! ### Texts -/

open Spacing (Spelled)

theorem lowercaseOnto_cons (was : Bool) (c : Char) (later : List Char) :
    lowercaseOnto [] was (c :: later) =
      lowercaseAt was c later ++ lowercaseOnto [] (casedAfter was c) later := by
  rw [lowercaseOnto, lowercaseOnto_eq, List.append_nil, List.reverse_reverse]

/-- How many characters the lowercase of a character has does not depend on where it stands. -/
theorem length_lowercaseAt (was : Bool) (c : Char) (later : List Char) :
    (lowercaseAt was c later).length = (lowercaseChar c).length := by
  rw [lowercaseAt]
  split
  · rename_i hsigma
    rw [beq_iff_eq.mp hsigma, lowercaseChar_eq (by decide)]
    split <;> rfl
  · rfl

/-- The lowercase of a letter with one small form does not depend on where it stands. -/
theorem lowercaseAt_of_not_hasTwoForms {c : Char} (h : ¬ HasTwoForms c) (was : Bool)
    (later : List Char) : lowercaseAt was c later = lowercaseChar c := by
  have hsigma : ¬ (c == 'Σ') = true := by
    intro heq
    rw [beq_iff_eq.mp heq] at h
    exact h (by decide +kernel)
  rw [lowercaseAt, if_neg hsigma]

/-- A letter has two small forms just if two of its spellings are their own lowercase. -/
theorem hasTwoForms_iff {c : Char} :
    HasTwoForms c ↔ ∃ a b, a ≠ b ∧ IsForm c a ∧ IsForm c b := by
  constructor
  · exact HasTwoForms.exists_forms
  · intro ⟨a, b, hne, ha, hb⟩
    by_contra hone
    have hac : foldEq a c = true := foldEq_comm c a ▸ ha.foldEq
    have ha' : ¬ HasTwoForms a := fun h => hone (h.of_foldEq hac)
    have hb' : ¬ HasTwoForms b := fun h => hone (h.of_foldEq (foldEq_comm c b ▸ hb.foldEq))
    have hlower := lowercaseChar_congr (foldEq_trans hac hb.foldEq) ha'
    rw [← lowercaseAt_of_not_hasTwoForms ha' false [], ← lowercaseAt_of_not_hasTwoForms hb' false [],
      ha.lowercaseAt_eq, hb.lowercaseAt_eq] at hlower
    exact hne (List.singleton_inj.mp hlower)

/-- The spellings of a text whose letters have one small form have one lowercase. -/
theorem lowercaseOnto_congr {word m : List Char} (h : Spelled word m)
    (hword : ∀ c ∈ word, ¬ HasTwoForms c) (was was' : Bool) :
    lowercaseOnto [] was m = lowercaseOnto [] was' word := by
  unfold Spelled at h
  induction h generalizing was was' with
  | nil => rfl
  | @cons a b word m hab _ ih =>
    obtain ⟨ha, hword⟩ := List.forall_mem_cons.mp hword
    have hb : ¬ HasTwoForms b := fun hb => ha (hb.of_foldEq (foldEq_comm a b ▸ hab))
    rw [lowercaseOnto_cons, lowercaseOnto_cons, lowercaseAt_of_not_hasTwoForms ha,
      lowercaseAt_of_not_hasTwoForms hb, lowercaseChar_congr hab ha,
      ih hword (casedAfter was b) (casedAfter was' a)]

/-- Where the lowercase of a text goes on after some characters depends on these alone. -/
theorem exists_lowercaseOnto_append (was : Bool) (pre rest : List Char) :
    ∃ front, front.length = (pre.flatMap lowercaseChar).length ∧
      lowercaseOnto [] was (pre ++ rest) =
        front ++ lowercaseOnto [] (pre.foldl casedAfter was) rest := by
  induction pre generalizing was with
  | nil => exact ⟨[], rfl, rfl⟩
  | cons c pre ih =>
    obtain ⟨front, hlength, heq⟩ := ih (casedAfter was c)
    refine ⟨lowercaseAt was c (pre ++ rest) ++ front, ?_, ?_⟩
    · rw [List.length_append, length_lowercaseAt, hlength, List.flatMap_cons, List.length_append]
    · rw [List.cons_append, lowercaseOnto_cons, heq, List.append_assoc, List.foldl_cons]

/-- The lowercase of a text tells which small form of a letter stands at a place. -/
theorem eq_of_lowercase_eq {c a b : Char} (ha : IsForm c a) (hb : IsForm c b) {pre post : List Char}
    (h : lowercase (pre ++ a :: post) = lowercase (pre ++ b :: post)) : a = b := by
  obtain ⟨front, hfront, heq⟩ := exists_lowercaseOnto_append false pre (a :: post)
  obtain ⟨front', hfront', heq'⟩ := exists_lowercaseOnto_append false pre (b :: post)
  rw [lowercase, lowercase, heq, heq', lowercaseOnto_cons, lowercaseOnto_cons,
    ha.lowercaseAt_eq, hb.lowercaseAt_eq] at h
  have hrest := (List.append_inj h (hfront.trans hfront'.symm)).2
  exact (List.cons.inj hrest).1

/-- Every spelling of a text has its lowercase just if no letter of the text has two small forms. -/
theorem lowercase_congr_iff (word : List Char) :
    (∀ m, Spelled word m → lowercase m = lowercase word) ↔ ∀ c ∈ word, ¬ HasTwoForms c := by
  constructor
  · intro h c hc htwo
    obtain ⟨pre, post, rfl⟩ := List.append_of_mem hc
    obtain ⟨a, b, hne, ha, hb⟩ := htwo.exists_forms
    have hspelled {d : Char} (hd : IsForm c d) : Spelled (pre ++ c :: post) (pre ++ d :: post) :=
      List.rel_append (List.forall₂_same.mpr fun x _ => foldEq_refl x)
        (.cons hd.foldEq (List.forall₂_same.mpr fun x _ => foldEq_refl x))
    have heq := (h _ (hspelled ha)).trans (h _ (hspelled hb)).symm
    exact hne (eq_of_lowercase_eq ha hb heq)
  · intro hword m hm
    exact lowercaseOnto_congr hm hword false false

end Annotator.Text
