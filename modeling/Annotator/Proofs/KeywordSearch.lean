import Mathlib.Data.List.Forall2
import Annotator.Keyword
import Annotator.Proofs.CaseMaps
import Annotator.Proofs.Cuts
import Annotator.Proofs.Results

/-!
# What a keyword finds

A keyword finds as many characters as it has, each of which stands for one of its own. A character
that is none of words and stands for none of a keyword separates: nothing that the keyword finds
reaches over it, and it bounds words like the end of a text. Such are the marks that do not occur in
the keyword.

## Key results

- `Keyword.strip_eq_some_iff`: what it means that a keyword stands at the front of a text
- `Keyword.front_append_eq_some_iff`: what it means that a keyword finds some characters
- `Keyword.front_proper`: what a keyword finds is not empty unless the keyword is
- `Keyword.Foreign.cut_append_cons`, `Keyword.Foreign.cut_append_of_last`: texts with a separating
  character between them are searched one by one
-/

namespace Annotator.Keyword

open Search (lastOf scan)

/-! ### Keywords at the front of a text -/

/-- A word stands at the front of a text if the text begins with characters that stand for those of
the word, one by one. -/
theorem strip_eq_some_iff {same : Char → Char → Bool} {word text rest : List Char} :
    strip same word text = some rest ↔
      ∃ matched, text = matched ++ rest ∧ List.Forall₂ (fun a b => same a b = true) word matched := by
  induction word generalizing text with
  | nil =>
    simp only [strip, Option.some.injEq, List.forall₂_nil_left_iff]
    constructor
    · intro heq
      subst heq
      exact ⟨[], rfl, rfl⟩
    · intro h
      obtain ⟨_, rfl, rfl⟩ := h
      rfl
  | cons a later ih =>
    cases text with
    | nil =>
      simp only [strip, reduceCtorEq, false_iff, not_exists, not_and]
      intro matched heq h
      obtain ⟨rfl, rfl⟩ : matched = [] ∧ rest = [] := by simpa using heq.symm
      cases h
    | cons b text =>
      simp only [strip]
      split
      · rename_i hab
        rw [ih]
        constructor
        · intro h
          obtain ⟨matched, rfl, hm⟩ := h
          exact ⟨b :: matched, rfl, .cons hab hm⟩
        · intro h
          obtain ⟨matched, heq, h⟩ := h
          obtain ⟨c, tail, _, htail, rfl⟩ := List.forall₂_cons_left_iff.mp h
          exact ⟨tail, (List.cons.inj heq).2, htail⟩
      · rename_i hab
        simp only [reduceCtorEq, false_iff, not_exists, not_and]
        intro matched heq h
        obtain ⟨c, tail, hac, _, rfl⟩ := List.forall₂_cons_left_iff.mp h
        exact hab ((List.cons.inj heq).1 ▸ hac)

/-- A keyword finds what stands for it between two places where words may be bounded. -/
theorem front_eq_some_iff {k : Keyword} {prev : Option Char} {text : List Char} {n : Nat} :
    k.front prev text = some n ↔
      n = k.text.length ∧ ∃ matched rest, text = matched ++ rest ∧
        List.Forall₂ (fun a b => k.sameChar a b = true) k.text matched ∧
        (k.bounded = true → Text.wordBoundary prev text.head? = true ∧
          Text.wordBoundary (lastOf prev matched) rest.head? = true) := by
  unfold front
  constructor
  · intro h
    split at h
    · cases h
    · rename_i rest hstrip
      obtain ⟨matched, rfl, hsame⟩ := strip_eq_some_iff.mp hstrip
      simp only at h
      split at h
      · rename_i hbound
        rw [← hsame.length_eq.symm, List.take_left] at hbound
        refine ⟨(Option.some.inj h).symm, matched, rest, rfl, hsame, fun hb => ?_⟩
        simpa [hb] using hbound
      · cases h
  · intro h
    obtain ⟨rfl, matched, rest, rfl, hsame, hbound⟩ := h
    have hstrip : strip k.sameChar k.text (matched ++ rest) = some rest :=
      strip_eq_some_iff.mpr ⟨matched, rfl, hsame⟩
    rw [hstrip]
    simp only
    rw [← hsame.length_eq.symm, List.take_left, if_pos]
    -- a keyword that is not bounded asks nothing of its neighbours
    cases hb : k.bounded with
    | false => rfl
    | true => simpa using hbound hb

/-- A keyword finds some characters in front of others if they stand for its own, and are bounded if
the keyword is. -/
theorem front_append_eq_some_iff {k : Keyword} {prev : Option Char} {m r : List Char} :
    k.front prev (m ++ r) = some m.length ↔
      List.Forall₂ (fun a b => k.sameChar a b = true) k.text m ∧
        (k.bounded = true → Text.wordBoundary prev (m ++ r).head? = true ∧
          Text.wordBoundary (lastOf prev m) r.head? = true) := by
  rw [front_eq_some_iff]
  constructor
  · rintro ⟨hlen, m', r', heq, hsame, hbound⟩
    obtain ⟨rfl, rfl⟩ := List.append_inj heq (hlen.trans hsame.length_eq)
    exact ⟨hsame, hbound⟩
  · rintro ⟨hsame, hbound⟩
    exact ⟨hsame.length_eq.symm, m, r, rfl, hsame, hbound⟩

/-- No part of a text without characters stands for a keyword. -/
theorem ne_nil_of_matched {k : Keyword} (hk : k.text ≠ []) {matched : List Char}
    (h : List.Forall₂ (fun a b => k.sameChar a b = true) k.text matched) : matched ≠ [] := by
  rintro rfl
  exact hk (List.forall₂_nil_right_iff.mp h)

/-- What a keyword finds is not empty unless the keyword is. -/
theorem front_proper {k : Keyword} (hk : k.text ≠ []) : Search.Proper k.front where
  pos h := by
    obtain ⟨rfl, -⟩ := front_eq_some_iff.mp h
    exact List.length_pos_iff.mpr hk
  le h := by
    obtain ⟨rfl, matched, rest, rfl, hsame, -⟩ := front_eq_some_iff.mp h
    rw [hsame.length_eq, List.length_append]
    omega

/-- Nothing is found in an empty text. -/
theorem cut_nil {k : Keyword} (hk : k.text ≠ []) : k.search.cut [] = .rest [] := by
  rw [search, Search.cut_ofFront, Search.scan_nil (front_proper hk)]

/-! ### Separating characters -/

/-- A character that is none of words and stands for no character of the keyword. -/
structure Foreign (k : Keyword) (d : Char) : Prop where
  notWord : Text.isWord d = false
  notSame : ∀ a ∈ k.text, k.sameChar a d = false

namespace Foreign

variable {k : Keyword} {d : Char}

/-- What a keyword finds has no character that is foreign to it. -/
theorem notMem_matched (hd : k.Foreign d) {matched : List Char}
    (h : List.Forall₂ (fun a b => k.sameChar a b = true) k.text matched) : d ∉ matched := by
  intro hmem
  obtain ⟨a, ha, hsame⟩ := Results.exists_of_mem_right h hmem
  rw [hd.notSame a ha] at hsame
  cases hsame

/-- A character that is none of words bounds words like the end of a text. -/
theorem wordBoundary_right (hd : k.Foreign d) (c : Option Char) :
    Text.wordBoundary c (some d) = Text.wordBoundary c none := by
  simp [Text.wordBoundary, hd.notWord]

theorem wordBoundary_left (hd : k.Foreign d) (c : Option Char) :
    Text.wordBoundary (some d) c = Text.wordBoundary none c := by
  simp [Text.wordBoundary, hd.notWord]

/-- After a character that is none of words a keyword finds what it finds at the start. -/
theorem front_prev (hd : k.Foreign d) (text : List Char) : k.front (some d) text = k.front none text := by
  have hlast (matched : List Char) (c : Option Char) :
      Text.wordBoundary (lastOf (some d) matched) c = Text.wordBoundary (lastOf none matched) c := by
    cases matched with
    | nil => exact hd.wordBoundary_left c
    | cons b matched => rw [Search.lastOf_cons, Search.lastOf_cons]
  apply Option.ext
  intro n
  simp only [front_eq_some_iff, hlast, hd.wordBoundary_left]

/-- There is nothing to find at a character that is foreign to the keyword. -/
theorem front_cons (hk : k.text ≠ []) (hd : k.Foreign d) (prev : Option Char) (text : List Char) :
    k.front prev (d :: text) = none := by
  rw [Option.eq_none_iff_forall_ne_some]
  intro n h
  obtain ⟨-, matched, rest, heq, hsame, -⟩ := front_eq_some_iff.mp h
  obtain ⟨c, matched, rfl⟩ := List.exists_cons_of_ne_nil (ne_nil_of_matched hk hsame)
  obtain ⟨rfl, -⟩ := List.cons.inj heq
  exact hd.notMem_matched hsame List.mem_cons_self

/-- A foreign character is passed over. -/
theorem cut_cons (hk : k.text ≠ []) (hd : k.Foreign d) (text : List Char) :
    k.search.cut (d :: text) = (k.search.cut text).prepend [d] := by
  have hp := front_proper hk
  rw [search, Search.cut_ofFront, Search.cut_ofFront, Search.scan_of_none hp (hd.front_cons hk none text),
    Search.scan_prev hp (hd.front_prev text)]

/-- So are several foreign characters. -/
theorem cut_append (hk : k.text ≠ []) {b : List Char} (hb : ∀ d ∈ b, k.Foreign d) (text : List Char) :
    k.search.cut (b ++ text) = (k.search.cut text).prepend b := by
  induction b with
  | nil => rw [List.nil_append, Cut.prepend_nil]
  | cons d b ih =>
    obtain ⟨hd, hb⟩ := List.forall_mem_cons.mp hb
    rw [List.cons_append, hd.cut_cons hk, ih hb, Cut.prepend_prepend]
    rfl

/-- A text that begins with a foreign character does so before the first hit, too. -/
theorem first_cons (hk : k.text ≠ []) (hd : k.Foreign d) (text : List Char) :
    ∃ b, (k.search.cut (d :: text)).first = d :: b := by
  rw [hd.cut_cons hk, Cut.first_prepend]
  exact ⟨_, rfl⟩

/-- What follows a foreign character does not change what is found before it. -/
theorem front_append_cons (hk : k.text ≠ []) (hd : k.Foreign d) (prev : Option Char)
    (r b : List Char) : k.front prev (r ++ d :: b) = k.front prev r := by
  -- what is found lies in `r`, and the character behind `r` bounds words like its end
  have hbounds (matched s : List Char) (hm : matched ≠ []) :
      (k.bounded = true → Text.wordBoundary prev (matched ++ (s ++ d :: b)).head? = true ∧
        Text.wordBoundary (lastOf prev matched) (s ++ d :: b).head? = true) ↔
      (k.bounded = true → Text.wordBoundary prev (matched ++ s).head? = true ∧
        Text.wordBoundary (lastOf prev matched) s.head? = true) := by
    obtain ⟨c, matched, rfl⟩ := List.exists_cons_of_ne_nil hm
    cases s with
    | nil => simp [hd.wordBoundary_right]
    | cons e s => rfl
  apply Option.ext
  intro n
  rw [front_eq_some_iff, front_eq_some_iff]
  refine and_congr_right fun _ => ⟨?_, ?_⟩
  · intro h
    obtain ⟨matched, rest, heq, hsame, hbound⟩ := h
    rcases List.append_eq_append_iff.mp heq with ⟨s, rfl, hs⟩ | ⟨s, rfl, rfl⟩
    · cases s with
      | nil =>
        obtain rfl : rest = d :: b := by simpa using hs.symm
        have h := hbounds r [] (by simpa using ne_nil_of_matched hk hsame)
        simp only [List.append_nil, List.nil_append] at h hsame hbound
        exact ⟨r, [], by simp, hsame, by simpa using h.mp hbound⟩
      | cons e s =>
        obtain ⟨rfl, -⟩ := List.cons.inj hs
        exact absurd (by simp) (hd.notMem_matched hsame)
    · refine ⟨matched, s, rfl, hsame, (hbounds matched s (ne_nil_of_matched hk hsame)).mp ?_⟩
      rwa [← List.append_assoc]
  · intro h
    obtain ⟨matched, s, rfl, hsame, hbound⟩ := h
    refine ⟨matched, s ++ d :: b, List.append_assoc _ _ _, hsame, ?_⟩
    rw [List.append_assoc]
    exact (hbounds matched s (ne_nil_of_matched hk hsame)).mpr hbound

/-- A text and one that begins with a foreign character are searched one after the other. -/
theorem cut_append_cons (hk : k.text ≠ []) (hd : k.Foreign d) (a b : List Char) :
    k.search.cut (a ++ d :: b) = (k.search.cut a).append (k.search.cut (d :: b)) := by
  have hp := front_proper hk
  rw [search, Search.cut_ofFront, Search.cut_ofFront, Search.cut_ofFront,
    Search.scan_append hp none (d :: b) fun p rest _ _ => hd.front_append_cons hk p rest b]
  congr 1
  exact Search.scan_prev hp (by rw [hd.front_cons hk, hd.front_cons hk])

/-- A text that ends with a foreign character and any other text are searched one after the other. -/
theorem cut_append_of_last (hk : k.text ≠ []) (hd : k.Foreign d) (a b : List Char) :
    k.search.cut (a ++ [d] ++ b) = (k.search.cut (a ++ [d])).append (k.search.cut b) := by
  have hp := front_proper hk
  have hfront (p : Option Char) (rest : List Char) (hne : rest ≠ []) (hs : rest <:+ a ++ [d]) :
      k.front p (rest ++ b) = k.front p rest := by
    obtain ⟨s, rfl⟩ : ∃ s, rest = s ++ [d] := by
      rcases List.suffix_concat_iff.mp hs with rfl | ⟨s, rfl, _⟩
      · exact absurd rfl hne
      · exact ⟨s, rfl⟩
    rw [List.append_assoc, List.singleton_append, hd.front_append_cons hk,
      hd.front_append_cons hk]
  have hlast : k.front (lastOf none (a ++ [d])) b = k.front none b := by
    rw [Search.lastOf_append]
    exact hd.front_prev b
  rw [search, Search.cut_ofFront, Search.cut_ofFront, Search.cut_ofFront,
    Search.scan_append hp none b hfront, Search.scan_prev hp hlast]

end Foreign

/-! ### Separating marks -/

/-- A mark that is no character of words and does not occur in the keyword. -/
structure Avoids (k : Keyword) (d : Char) : Prop where
  mark : Text.IsMark d
  notWord : Text.isWord d = false
  notMem : d ∉ k.text

theorem eq_of_sameChar_mark_left {k : Keyword} {a d : Char} (ha : Text.IsMark a)
    (h : k.sameChar a d = true) : a = d := by
  unfold sameChar at h
  split at h
  · exact beq_iff_eq.mp h
  · exact Text.eq_of_foldEq_mark ha h

theorem eq_of_sameChar_mark {k : Keyword} {a d : Char} (hd : Text.IsMark d)
    (h : k.sameChar a d = true) : a = d := by
  unfold sameChar at h
  split at h
  · exact beq_iff_eq.mp h
  · rw [Text.foldEq_comm] at h
    exact (Text.eq_of_foldEq_mark hd h).symm

/-- What stands for a keyword has the marks that the keyword has. -/
theorem mem_matched_iff {k : Keyword} {d : Char} (hd : Text.IsMark d) {word matched : List Char}
    (h : List.Forall₂ (fun a b => k.sameChar a b = true) word matched) : d ∈ matched ↔ d ∈ word := by
  induction h with
  | nil => rfl
  | @cons a b word matched hab _ ih =>
    have hfront : d = b ↔ d = a := by
      constructor
      · intro heq
        subst heq
        exact (eq_of_sameChar_mark hd hab).symm
      · intro heq
        subst heq
        exact eq_of_sameChar_mark_left hd hab
    rw [List.mem_cons, List.mem_cons, hfront, ih]

/-- A mark that the keyword avoids stands for none of its characters. -/
theorem Avoids.foreign {k : Keyword} {d : Char} (hd : k.Avoids d) : k.Foreign d where
  notWord := hd.notWord
  notSame a ha := by
    rw [Bool.eq_false_iff]
    intro hsame
    exact hd.notMem (eq_of_sameChar_mark hd.mark hsame ▸ ha)

/-! ### Words that are not cut -/

/-- A keyword that is bounded, or begins with a mark that is no character of words. -/
def Whole (k : Keyword) : Prop :=
  k.bounded = true ∨ ∃ d later, k.text = d :: later ∧ Text.IsMark d ∧ Text.isWord d = false

/-- The text before the first thing that a keyword finds is the whole text, or ends before some
character; a whole keyword does not cut a word there. -/
theorem first_cases {k : Keyword} (hk : k.text ≠ []) (text : List Char) :
    (k.search.cut text).first = text ∨ ∃ d later, text = (k.search.cut text).first ++ d :: later ∧
      (k.Whole → (lastOf none (k.search.cut text).first).any Text.isWord = true →
        Text.isWord d = false) := by
  have htext := Search.text_cut k.search text
  cases hcut : k.search.cut text with
  | rest t =>
    rw [hcut] at htext
    exact .inl htext
  | hit b m g a =>
    rw [hcut, Cut.text_hit, List.append_assoc] at htext
    -- the keyword stands where the text before the hit ends
    obtain ⟨hsame, hbound⟩ := front_append_eq_some_iff.mp
      (Search.front_of_scan_eq_hit (front_proper hk) hcut)
    obtain ⟨e, word, hword⟩ := List.exists_cons_of_ne_nil hk
    rw [hword] at hsame
    obtain ⟨d, m, hed, -, rfl⟩ := List.forall₂_cons_left_iff.mp hsame
    refine .inr ⟨d, m ++ a.text, htext.symm, ?_⟩
    rintro (hb | ⟨e', word', hword', hmark, hnot⟩) hlast
    · have hleft := (hbound hb).1
      have hlast : (lastOf none b).any Text.isWord = true := hlast
      rw [Text.wordBoundary, hlast] at hleft
      simpa using hleft
    · rw [hword] at hword'
      obtain ⟨rfl, -⟩ := List.cons.inj hword'
      rwa [← eq_of_sameChar_mark_left hmark hed]

/-- What a keyword finds at the front of a text is also found if the text goes on, unless that makes
a word longer. -/
theorem front_append_of_eq_some {k : Keyword} (hk : k.text ≠ []) {prev : Option Char}
    {s : List Char} {n : Nat} (h : k.front prev s = some n) {d : Char}
    (hd : k.bounded = true → (lastOf prev s).any Text.isWord = true → Text.isWord d = false)
    (later : List Char) : k.front prev (s ++ d :: later) = some n := by
  obtain ⟨rfl, matched, rest, rfl, hsame, hbound⟩ := front_eq_some_iff.mp h
  refine front_eq_some_iff.mpr ⟨rfl, matched, rest ++ d :: later, by simp, hsame, fun hb => ?_⟩
  have ⟨hleft, hright⟩ := hbound hb
  have hne : matched ++ rest ≠ [] := List.append_ne_nil_of_left_ne_nil (ne_nil_of_matched hk hsame) rest
  refine ⟨by rwa [List.head?_append_of_ne_nil _ hne], ?_⟩
  -- where the text ended, the keyword was bounded by a character of words
  cases rest with
  | nil =>
    have hlast : (lastOf prev matched).any Text.isWord = true := by
      simpa [Text.wordBoundary] using hright
    rw [List.append_nil] at hd
    simp [Text.wordBoundary, hlast, hd hb hlast]
  | cons c rest => exact hright

/-- A keyword with a mark finds nothing in a text without it. -/
theorem front_eq_none_of_not_mem {k : Keyword} {d : Char} (hd : Text.IsMark d) (hmem : d ∈ k.text)
    (prev : Option Char) {text : List Char} (h : d ∉ text) : k.front prev text = none := by
  rw [Option.eq_none_iff_forall_ne_some]
  intro n hn
  obtain ⟨-, matched, rest, rfl, hsame, -⟩ := front_eq_some_iff.mp hn
  exact h (List.mem_append_left rest ((mem_matched_iff hd hsame).mpr hmem))

end Annotator.Keyword
