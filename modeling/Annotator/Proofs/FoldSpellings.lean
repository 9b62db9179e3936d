import Mathlib.Data.List.Chain
import Annotator.Pattern.Meaning
import Annotator.Proofs.CaseMaps

/-!
# The spellings of a letter as a set

A pattern that ignores case has the set of all spellings in place of a letter. The set is put
together from the table of case folding. What the table folds to is folded no further, so a spelling
of a letter either is what the letter folds to or folds to the same code point, and the set has just
the characters that are equal to the letter up to case.

## Key results

- `CodeSet.Ascends.contains_iff`, `CodeSet.covers_ofRanges`: what a set made of ranges contains
- `Text.foldCode_foldCode`: folding twice is folding once
- `Text.mem_codesFoldingTo`: the code points that fold to one
- `Pattern.contains_spellingsOf`: the set of the spellings of a character
-/

namespace Annotator

/-! ### Sets made of ranges -/

namespace Unicode

/-- A code point that is no surrogate. -/
def IsScalar (c : Nat) : Prop := c < 0xD800 ∨ 0xE000 ≤ c

theorem isScalar_toNat (c : Char) : IsScalar c.toNat := by
  rcases c.valid with h | h
  · exact .inl h
  · exact .inr (Nat.lt_of_lt_of_le (by decide) h.1)

namespace CodeSet

/-- Whether one of some ranges has a code point. -/
def Covers (ranges : List (Nat × Nat)) (c : Nat) : Prop := ∃ r ∈ ranges, r.1 ≤ c ∧ c ≤ r.2

theorem covers_cons {r : Nat × Nat} {ranges : List (Nat × Nat)} {c : Nat} :
    Covers (r :: ranges) c ↔ (r.1 ≤ c ∧ c ≤ r.2) ∨ Covers ranges c := by
  simp [Covers]

/-- Ranges of one code point each. -/
theorem covers_map_iff {α : Type} {f : α → Nat} {l : List α} {c : Nat} :
    Covers (l.map fun a => (f a, f a)) c ↔ ∃ a ∈ l, f a = c := by
  constructor
  · rintro ⟨r, hr, hlo, hhi⟩
    obtain ⟨a, ha, rfl⟩ := List.mem_map.mp hr
    exact ⟨a, ha, Nat.le_antisymm hlo hhi⟩
  · rintro ⟨a, ha, rfl⟩
    exact ⟨_, List.mem_map_of_mem ha, Nat.le_refl _, Nat.le_refl _⟩

theorem proper_map {α : Type} {f : α → Nat} {l : List α} :
    ∀ r ∈ l.map fun a => (f a, f a), r.1 ≤ r.2 := by
  intro r hr
  obtain ⟨a, -, rfl⟩ := List.mem_map.mp hr
  exact Nat.le_refl (f a)

/-- Ranges in ascending order, none of which is empty. -/
structure Ascends (ranges : List (Nat × Nat)) : Prop where
  sorted : ranges.Pairwise fun a b => a.1 ≤ b.1
  proper : ∀ a ∈ ranges, a.1 ≤ a.2

theorem ascends_cons {r : Nat × Nat} {ranges : List (Nat × Nat)} :
    Ascends (r :: ranges) ↔ (∀ a ∈ ranges, r.1 ≤ a.1) ∧ r.1 ≤ r.2 ∧ Ascends ranges := by
  constructor
  · rintro ⟨hsorted, hproper⟩
    obtain ⟨hfirst, hsorted⟩ := List.pairwise_cons.mp hsorted
    obtain ⟨hr, hproper⟩ := List.forall_mem_cons.mp hproper
    exact ⟨hfirst, hr, hsorted, hproper⟩
  · rintro ⟨hfirst, hr, hsorted, hproper⟩
    exact ⟨List.pairwise_cons.mpr ⟨hfirst, hsorted⟩, List.forall_mem_cons.mpr ⟨hr, hproper⟩⟩

/-- A set has the code points of its ranges. -/
theorem Ascends.contains_iff {s : CodeSet} (h : Ascends s) (c : Nat) :
    s.contains c = true ↔ Covers s c := by
  induction s with
  | nil => simp [contains, Covers]
  | cons r later ih =>
    obtain ⟨lo, hi⟩ := r
    obtain ⟨hfirst, hr, hlater⟩ := ascends_cons.mp h
    rw [contains, covers_cons, ← ih hlater]
    split
    · rename_i hbelow
      -- the ranges that follow begin no lower
      rw [ih hlater]
      simp only [Bool.false_eq_true, false_iff, not_or]
      refine ⟨by omega, ?_⟩
      rintro ⟨a, ha, hle, -⟩
      have := hfirst a ha
      simp only at this
      omega
    · rw [Bool.or_eq_true, decide_eq_true_eq]
      exact or_congr_left (by simp only; omega)

variable {lo hi lo' hi' c : Nat} {ranges : List (Nat × Nat)}

/-- Two ranges at the front as one. -/
theorem Ascends.merge (h : Ascends ((lo, hi) :: (lo', hi') :: ranges)) :
    Ascends ((lo, max hi hi') :: ranges) := by
  obtain ⟨hfirst, hr, hlater⟩ := ascends_cons.mp h
  obtain ⟨-, -, hlater⟩ := ascends_cons.mp hlater
  exact ascends_cons.mpr ⟨(List.forall_mem_cons.mp hfirst).2,
    Nat.le_trans hr (Nat.le_max_left hi hi'), hlater⟩

theorem le_of_mem_join {n : Nat} (hlo : n ≤ lo) (h : ∀ a ∈ ranges, n ≤ a.1) :
    ∀ a ∈ join (lo, hi) ranges, n ≤ a.1 := by
  induction ranges generalizing lo hi with
  | nil => exact List.forall_mem_singleton.mpr hlo
  | cons r ranges ih =>
    obtain ⟨hr, hlater⟩ := List.forall_mem_cons.mp h
    rw [join]
    split
    · exact ih hlo hlater
    · exact List.forall_mem_cons.mpr ⟨hlo, ih hr hlater⟩

theorem Ascends.join (h : Ascends ((lo, hi) :: ranges)) :
    Ascends (CodeSet.join (lo, hi) ranges) := by
  induction ranges generalizing lo hi with
  | nil => exact h
  | cons r ranges ih =>
    obtain ⟨hfirst, hr, hlater⟩ := ascends_cons.mp h
    obtain ⟨hlo, hfirst⟩ := List.forall_mem_cons.mp hfirst
    rw [CodeSet.join]
    split
    · exact ih h.merge
    · exact ascends_cons.mpr ⟨le_of_mem_join hlo hfirst, hr, ih hlater⟩

/-- Joining ranges in ascending order neither loses nor adds a code point: between the last code
point before the surrogates and the first one after them there is none to add. -/
theorem covers_join (h : Ascends ((lo, hi) :: ranges)) (hc : IsScalar c) :
    Covers (CodeSet.join (lo, hi) ranges) c ↔ Covers ((lo, hi) :: ranges) c := by
  induction ranges generalizing lo hi with
  | nil => exact Iff.rfl
  | cons r ranges ih =>
    obtain ⟨lo', hi'⟩ := r
    obtain ⟨hfirst, hr, hlater⟩ := ascends_cons.mp h
    have hlo : lo ≤ lo' := hfirst _ List.mem_cons_self
    rw [CodeSet.join]
    split
    · rename_i htouch
      have hmax : lo ≤ c ∧ c ≤ max hi hi' ↔ (lo ≤ c ∧ c ≤ hi) ∨ (lo' ≤ c ∧ c ≤ hi') := by
        unfold IsScalar at hc
        unfold after at htouch
        split at htouch <;> omega
      rw [ih h.merge, covers_cons, covers_cons, covers_cons, hmax, or_assoc]
    · rw [covers_cons, ih hlater, ← covers_cons]

theorem ascends_mergeSort (h : ∀ a ∈ ranges, a.1 ≤ a.2) :
    Ascends (ranges.mergeSort fun a b => a.1 ≤ b.1) where
  sorted := by
    have hsorted := @List.pairwise_mergeSort _ (fun a b : Nat × Nat => decide (a.1 ≤ b.1))
      (fun a b c hab hbc => by simp only [decide_eq_true_eq] at *; omega)
      (fun a b => by simp only [Bool.or_eq_true, decide_eq_true_eq]; omega) ranges
    simpa only [decide_eq_true_eq] using hsorted
  proper a ha := h a (List.mem_mergeSort.mp ha)

/-- A set made of ranges is in ascending order. -/
theorem ascends_ofRanges (h : ∀ a ∈ ranges, a.1 ≤ a.2) : Ascends (ofRanges ranges) := by
  have hsorted := ascends_mergeSort h
  rw [ofRanges]
  split
  · rename_i heq
    exact heq ▸ hsorted
  · rename_i r later heq
    rw [heq] at hsorted
    exact hsorted.join

/-- A set made of ranges has the code points of the ranges. -/
theorem covers_ofRanges (h : ∀ a ∈ ranges, a.1 ≤ a.2) (hc : IsScalar c) :
    Covers (ofRanges ranges) c ↔ Covers ranges c := by
  have hsorted := ascends_mergeSort h
  have hmem : Covers (ranges.mergeSort fun a b => a.1 ≤ b.1) c ↔ Covers ranges c :=
    exists_congr fun a => and_congr_left fun _ => List.mem_mergeSort
  rw [← hmem, ofRanges]
  split
  · rename_i heq
    rw [heq]
  · rename_i r later heq
    rw [heq] at hsorted ⊢
    exact covers_join hsorted hc

/-- A set made of code points in ascending order has just these. -/
theorem contains_ofAscending {codes : List Nat} (h : codes.Pairwise (· < ·)) (hc : IsScalar c) :
    (ofAscending codes).contains c = true ↔ c ∈ codes := by
  match codes with
  | [] => simp [ofAscending, contains]
  | a :: later =>
    have hranges : Ascends ((a :: later).map fun d => (d, d)) :=
      ⟨List.pairwise_map.mpr (h.imp Nat.le_of_lt), proper_map⟩
    have hascends : Ascends ((a, a) :: later.map fun d => (d, d)) := hranges
    have hcovers : Covers ((a, a) :: later.map fun d => (d, d)) c ↔ ∃ d ∈ a :: later, d = c :=
      covers_map_iff (f := fun d => d) (l := a :: later)
    rw [ofAscending, hascends.join.contains_iff, covers_join hascends hc, hcovers,
      exists_eq_right]

end CodeSet

end Unicode

/-! ### The table of case folding -/

namespace Text

namespace CaseRun

theorem covers_iff {r : CaseRun} {c : Nat} :
    r.covers c = true ↔ r.first ≤ c ∧ c ≤ r.last ∧ (c - r.first) % r.step = 0 := by
  simp only [covers, Bool.and_eq_true, decide_eq_true_eq, beq_iff_eq, and_assoc]

/-- The code point of a run that maps to another. -/
theorem source?_eq_some_iff {r : CaseRun} {t c : Nat} :
    r.source? t = some c ↔ r.covers c = true ∧ r.image c = t := by
  rw [source?, image]
  constructor
  · intro h
    split at h
    · rename_i hc
      obtain ⟨hle, hcovers⟩ := (Bool.and_eq_true _ _).mp hc
      obtain rfl := Option.some.inj h
      have := of_decide_eq_true hle
      exact ⟨hcovers, by omega⟩
    · cases h
  · rintro ⟨hcovers, rfl⟩
    obtain ⟨hfirst, -⟩ := covers_iff.mp hcovers
    have hc : r.first + (c - r.first) = c := Nat.add_sub_of_le hfirst
    simp [hc, hcovers]

/-- The code points of a run with what they map to. -/
theorem mem_pairs {r : CaseRun} (hstep : 0 < r.step) (hle : r.first ≤ r.last) {c t : Nat} :
    (c, t) ∈ r.pairs ↔ r.covers c = true ∧ t = r.image c := by
  rw [covers_iff]
  simp only [pairs, image, List.mem_map, List.mem_range, Prod.mk.injEq]
  constructor
  · rintro ⟨k, hk, rfl, rfl⟩
    have : r.step * k ≤ r.last - r.first := by
      rw [Nat.mul_comm, ← Nat.le_div_iff_mul_le hstep]
      omega
    simp only [Nat.add_sub_cancel_left, Nat.mul_mod_right, and_true]
    omega
  · rintro ⟨⟨hfirst, hlast, hmod⟩, rfl⟩
    have hk : r.step * ((c - r.first) / r.step) = c - r.first :=
      Nat.mul_div_cancel' (Nat.dvd_of_mod_eq_zero hmod)
    refine ⟨(c - r.first) / r.step, ?_, by omega, by rw [hk]⟩
    exact Nat.lt_succ_of_le (Nat.div_le_div_right (by omega))

/-- The run of a code point, where no two runs have a code point in common. -/
theorem find?_covers {runs : List CaseRun} (hruns : runs.Pairwise fun a b => a.last < b.first)
    {r : CaseRun} (hr : r ∈ runs) {c : Nat} (hc : r.covers c = true) :
    runs.find? (·.covers c) = some r := by
  induction runs with
  | nil => cases hr
  | cons q runs ih =>
    obtain ⟨hq, hruns⟩ := List.pairwise_cons.mp hruns
    rcases List.mem_cons.mp hr with rfl | hr
    · rw [List.find?_cons, hc]
    · have hqc : q.covers c = false := by
        rw [Bool.eq_false_iff]
        intro hqc
        have := (covers_iff.mp hqc).2.1
        have := (covers_iff.mp hc).1
        have := hq r hr
        omega
      rw [List.find?_cons, hqc]
      exact ih hruns hr

/-- Runs ascend if each begins behind the one before it. -/
theorem pairwise_of_isChain {runs : List CaseRun}
    (h : runs.IsChain fun a b => a.last < b.first ∧ b.first ≤ b.last) :
    runs.Pairwise fun a b => a.last < b.first := by
  have : IsTrans CaseRun fun a b => a.last < b.first ∧ b.first ≤ b.last :=
    ⟨fun a b c hab hbc => ⟨by omega, hbc.2⟩⟩
  exact (List.isChain_iff_pairwise.mp h).imp fun h => h.1

/-- A code point of a run maps to its image. -/
theorem mapCode_of_covers {runs : List CaseRun} (hruns : runs.Pairwise fun a b => a.last < b.first)
    {r : CaseRun} (hr : r ∈ runs) {c : Nat} (hc : r.covers c = true) :
    mapCode runs c = r.image c := by
  rw [mapCode, find?_covers hruns hr hc]

/-- A code point that is in no run stays. -/
theorem mapCode_of_not_covers {runs : List CaseRun} {c : Nat}
    (h : ∀ r ∈ runs, r.covers c = false) : mapCode runs c = c := by
  have hnone : runs.find? (·.covers c) = none := by simpa using h
  rw [mapCode, hnone]

/-- Whether nothing that one run maps to is a code point of another: they have no code point in
common, or both take every second one and begin at different ones. -/
def misses (r q : CaseRun) : Bool :=
  Nat.blt (r.target + (r.last - r.first)) q.first || Nat.blt q.last r.target ||
    (q.step == 2 && (r.step == 2 || r.first == r.last) && (r.target + q.first) % 2 == 1)

theorem covers_image_of_misses {r q : CaseRun} (h : r.misses q = true) {c : Nat}
    (hc : r.covers c = true) : q.covers (r.image c) = false := by
  simp only [misses, Bool.or_eq_true, Bool.and_eq_true, Nat.blt_eq, beq_iff_eq] at h
  obtain ⟨hfirst, hlast, hmod⟩ := covers_iff.mp hc
  rw [Bool.eq_false_iff, image]
  intro hcovers
  obtain ⟨hfirst', hlast', hmod'⟩ := covers_iff.mp hcovers
  rcases h with (h | h) | ⟨⟨hq, hr⟩, hodd⟩
  · omega
  · omega
  · rw [hq] at hmod'
    rcases hr with hr | hr
    · rw [hr] at hmod
      omega
    · omega

theorem covers_image_of_all_misses {rs qs : List CaseRun}
    (h : rs.all (fun r => qs.all r.misses) = true) {r q : CaseRun} (hr : r ∈ rs) (hq : q ∈ qs) {c : Nat}
    (hc : r.covers c = true) : q.covers (r.image c) = false :=
  covers_image_of_misses (List.all_eq_true.mp (List.all_eq_true.mp h r hr) q hq) hc

end CaseRun

/-- The runs of case folding ascend. -/
theorem foldRuns_ascend : foldRuns.Pairwise fun a b => a.last < b.first :=
  CaseRun.pairwise_of_isChain (by decide +kernel)

/-- No run is empty, and one run alone has ASCII letters. -/
theorem foldRuns_proper : ∀ r ∈ foldRuns, 0 < r.step ∧ r.first ≤ r.last ∧
    (r.first < 128 → r = ⟨65, 90, 1, 97⟩) := by decide +kernel

/-- No code point that is folded to is folded further. -/
theorem foldRuns_misses : foldRuns.all (fun r => foldRuns.all r.misses) = true := by
  decide +kernel

/-- A code point of a run folds to its image. -/
theorem foldCode_of_covers {r : CaseRun} (hr : r ∈ foldRuns) {c : Nat} (hc : r.covers c = true) :
    foldCode c = r.image c := by
  obtain ⟨hfirst, hlast, -⟩ := CaseRun.covers_iff.mp hc
  rw [foldCode]
  split
  · rename_i hascii
    obtain rfl := (foldRuns_proper r hr).2.2 (Nat.lt_of_le_of_lt hfirst hascii)
    have hletter : (65 ≤ c && c ≤ 90) = true := by
      rw [Bool.and_eq_true, decide_eq_true_eq, decide_eq_true_eq]
      exact ⟨hfirst, hlast⟩
    rw [if_pos hletter, CaseRun.image]
    simp only at hfirst ⊢
    omega
  · exact CaseRun.mapCode_of_covers foldRuns_ascend hr hc

/-- A code point that is in no run stays. -/
theorem foldCode_of_not_covers {c : Nat} (h : ∀ r ∈ foldRuns, r.covers c = false) :
    foldCode c = c := by
  rw [foldCode]
  split
  · split
    · rename_i hletter
      have hcovers : (⟨65, 90, 1, 97⟩ : CaseRun).covers c = true := by
        simpa [CaseRun.covers, Nat.mod_one] using hletter
      rw [h _ List.mem_cons_self] at hcovers
      cases hcovers
    · rfl
  · exact CaseRun.mapCode_of_not_covers h

/-- Folding twice is folding once. -/
theorem foldCode_foldCode (c : Nat) : foldCode (foldCode c) = foldCode c := by
  by_cases h : ∃ r ∈ foldRuns, r.covers c = true
  · obtain ⟨r, hr, hc⟩ := h
    rw [foldCode_of_covers hr hc]
    exact foldCode_of_not_covers fun q hq =>
      CaseRun.covers_image_of_all_misses foldRuns_misses hr hq hc
  · have hself : foldCode c = c := foldCode_of_not_covers (by simpa using h)
    rw [hself, hself]

/-- The code points that fold to one that is folded no further. -/
theorem mem_codesFoldingTo {c t : Nat} (ht : foldCode t = t) :
    c ∈ codesFoldingTo t ↔ foldCode c = t := by
  have hsources : c ∈ foldRuns.filterMap (·.source? t) ↔
      ∃ r ∈ foldRuns, r.covers c = true ∧ r.image c = t := by
    simp only [List.mem_filterMap, CaseRun.source?_eq_some_iff]
  have hmem : c ∈ codesFoldingTo t ↔ c = t ∨ c ∈ foldRuns.filterMap (·.source? t) := by
    simp only [codesFoldingTo, List.mem_append, List.mem_cons, List.mem_filter, decide_eq_true_eq]
    rcases Nat.lt_trichotomy c t with h | h | h <;> simp [h, Nat.lt_asymm, Nat.ne_of_lt, Nat.ne_of_gt]
  rw [hmem, hsources]
  constructor
  · rintro (rfl | ⟨r, hr, hc, himage⟩)
    · exact ht
    · rw [foldCode_of_covers hr hc, himage]
  · intro hc
    by_cases h : ∃ r ∈ foldRuns, r.covers c = true
    · obtain ⟨r, hr, hcovers⟩ := h
      exact .inr ⟨r, hr, hcovers, (foldCode_of_covers hr hcovers).symm.trans hc⟩
    · exact .inl ((foldCode_of_not_covers (by simpa using h)).symm.trans hc)

/-- The code points that fold to one come in ascending order, as the runs do. -/
theorem pairwise_codesFoldingTo (t : Nat) : (codesFoldingTo t).Pairwise (· < ·) := by
  have hsources : (foldRuns.filterMap (·.source? t)).Pairwise (· < ·) := by
    refine List.pairwise_filterMap.mpr (foldRuns_ascend.imp fun hab c hc d hd => ?_)
    obtain ⟨-, hlast, -⟩ := CaseRun.covers_iff.mp (CaseRun.source?_eq_some_iff.mp hc).1
    obtain ⟨hfirst, -⟩ := CaseRun.covers_iff.mp (CaseRun.source?_eq_some_iff.mp hd).1
    omega
  rw [codesFoldingTo, List.pairwise_append, List.pairwise_cons]
  simp only [List.mem_filter, List.mem_cons, decide_eq_true_eq]
  refine ⟨hsources.filter _, ⟨fun c hc => hc.2, hsources.filter _⟩, ?_⟩
  rintro c ⟨-, hc⟩ d (rfl | ⟨-, hd⟩)
  · exact hc
  · exact Nat.lt_trans hc hd

end Text

/-! ### Spellings -/

namespace Pattern

open Unicode (CodeSet)

/-- The spellings of a character are the characters that are equal to it up to case. -/
theorem contains_spellingsOf (c d : Char) :
    (spellingsOf c).contains d.toNat = Text.foldEq c d := by
  rw [Bool.eq_iff_iff, spellingsOf, CodeSet.contains_ofAscending (Text.pairwise_codesFoldingTo _)
    (Unicode.isScalar_toNat d), Text.mem_codesFoldingTo (Text.foldCode_foldCode _), Text.foldEq_iff,
    eq_comm]

theorem contains_singleton {c d : Nat} : CodeSet.contains [(c, c)] d = true ↔ d = c := by
  rw [CodeSet.contains, CodeSet.contains]
  split <;> simp <;> omega

/-- A character with one spelling is that spelling. -/
theorem foldEq_of_single {c : Char} {n : Nat} (h : CodeSet.single? (spellingsOf c) = some n) :
    n = c.toNat ∧ ∀ d, Text.foldEq c d = (d == c) := by
  have hset : spellingsOf c = [(n, n)] := by
    unfold CodeSet.single? at h
    split at h
    · rename_i lo hi heq
      split at h
      · rename_i hlo
        obtain rfl := Option.some.inj h
        rw [heq, hlo]
      · cases h
    · cases h
  have hself := contains_spellingsOf c c
  rw [Text.foldEq_refl, hset, contains_singleton] at hself
  refine ⟨hself.symm, fun d => ?_⟩
  rw [← contains_spellingsOf, hset, Bool.eq_iff_iff, contains_singleton, beq_iff_eq, ← hself]
  exact Char.toNat_inj

theorem spellingsOf_ne_nil (c : Char) : spellingsOf c ≠ [] := by
  intro hnil
  have hself := contains_spellingsOf c c
  rw [hnil, Text.foldEq_refl] at hself
  cases hself

end Pattern

end Annotator
