import Mathlib.Data.List.Induction
import Annotator.Proofs.KeywordSearch
import Annotator.Proofs.Settled

/-!
# Runs of word characters

A text is cut at its runs of word characters, each as long as it can be. A bounded keyword of word
characters finds such runs and nothing else, whatever has been put in the place of other runs: the
characters between two runs separate them (`Keyword.replace_cut_replace`). So to look for such keywords
one after the other in a text is to look for them in each of its runs.

## Key results

- `Text.text_runs`, `Text.ofRuns_runs`: the cut of a text at its runs
- `Keyword.replace_cut_replace`, `Keyword.foldl_replace_eq`: keywords are looked for run by run
- `Keyword.cut_of_spells`, `Keyword.cut_of_not_spells`: what it finds in a run
-/

namespace Annotator

open Search (lastOf)
open Spacing (Usual isWord_ends wordBoundary_iff_of_isWord)

namespace Text

/-- One or more characters of words. -/
structure IsRun (word : List Char) : Prop where
  ne_nil : word ≠ []
  isWord : ∀ c ∈ word, isWord c = true

instance (word : List Char) : Decidable (IsRun word) :=
  decidable_of_iff (word ≠ [] ∧ word.all isWord = true) <| by
    rw [List.all_eq_true]
    exact ⟨fun h => ⟨h.1, h.2⟩, fun h => ⟨h.ne_nil, h.isWord⟩⟩

/-- The cut of a text at its runs of word characters, each as long as it can be. -/
def runs : List Char → Cut
  | [] => .rest []
  | c :: later =>
    if isWord c then .hit [] (c :: later.takeWhile isWord) [] (runs (later.dropWhile isWord))
    else (runs later).prepend [c]
  termination_by text => text.length
  decreasing_by
    · have := (List.dropWhile_suffix isWord (l := later)).length_le
      rw [List.length_cons]
      omega
    · simp

theorem text_runs (text : List Char) : (runs text).text = text := by
  fun_induction runs text with
  | case1 => rfl
  | case2 c later _ ih =>
    rw [Cut.text_hit, ih, List.nil_append, List.cons_append, List.takeWhile_append_dropWhile]
  | case3 c later _ ih => rw [Cut.text_prepend, ih, List.singleton_append]

end Text

open Text (IsRun isWord)

/-! ### Cuts at runs -/

namespace Cut

/-- A cut at runs of word characters that do not touch, with no word characters between them. -/
inductive OfRuns : Cut → Prop
  | rest {t : List Char} (gap : ∀ d ∈ t, isWord d = false) : OfRuns (.rest t)
  | hit {b m : List Char} {a : Cut} (gap : ∀ d ∈ b, isWord d = false) (run : IsRun m)
      (apart : a.text.head?.any isWord = false) (later : OfRuns a) : OfRuns (.hit b m [] a)

theorem OfRuns.prepend {c : Cut} (h : OfRuns c) {t : List Char} (ht : ∀ d ∈ t, isWord d = false) :
    OfRuns (c.prepend t) := by
  cases h with
  | rest gap => exact .rest (List.forall_mem_append.mpr ⟨ht, gap⟩)
  | hit gap run apart later => exact .hit (List.forall_mem_append.mpr ⟨ht, gap⟩) run apart later

/-- Between the runs there are no word characters. -/
theorem OfRuns.isWord_plain {c : Cut} (h : OfRuns c) : ∀ d ∈ c.plain, isWord d = false := by
  induction h with
  | rest gap => rwa [plain_rest]
  | hit gap _ _ _ ih =>
    rw [plain_hit]
    exact List.forall_mem_append.mpr ⟨gap, ih⟩

/-- What follows a run is nothing, or begins with a character between runs whatever is put in the
place of the runs. -/
theorem OfRuns.eq_rest_or_cons {c : Cut} (h : OfRuns c) (hhead : c.text.head?.any isWord = false) :
    c = .rest [] ∨ ∃ d ∈ c.plain, ∀ f, ∃ r, c.replace f = d :: r := by
  cases h with
  | @rest t _ =>
    cases t with
    | nil => exact .inl rfl
    | cons d t => exact .inr ⟨d, by simp, fun _ => ⟨t, rfl⟩⟩
  | @hit b m a _ run _ _ =>
    cases b with
    | nil =>
      rw [text_hit, List.nil_append, List.head?_append_of_ne_nil m run.ne_nil,
        (isWord_ends run.ne_nil run.isWord).1] at hhead
      cases hhead
    | cons d b => exact .inr ⟨d, by simp, fun _ => ⟨_, rfl⟩⟩

/-- What is put in the place of runs matters for runs only. -/
theorem OfRuns.replace_congr {c : Cut} (h : OfRuns c)
    {f f' : List Char → List (Option (List Char)) → List Char} (heq : ∀ m, IsRun m → f m [] = f' m []) :
    c.replace f = c.replace f' := by
  induction h with
  | rest _ => rfl
  | @hit b m a _ run _ _ ih => rw [replace, replace, heq m run, ih]

end Cut

/-- In a run only the whole of it is bounded: any other part has a word character next to it. -/
theorem Text.eq_nil_of_bounded {b n r : List Char} (h : ∀ c ∈ b ++ (n ++ r), isWord c = true)
    (hn : n ≠ []) (hleft : Text.wordBoundary (lastOf none b) (n ++ r).head? = true)
    (hright : Text.wordBoundary (lastOf (lastOf none b) n) r.head? = true) : b = [] ∧ r = [] := by
  obtain ⟨hb, h⟩ := List.forall_mem_append.mp h
  obtain ⟨hword, hr⟩ := List.forall_mem_append.mp h
  obtain ⟨hhead, hlast⟩ := isWord_ends hn hword
  constructor
  · refine Decidable.byContradiction fun hne => ?_
    rw [Search.lastOf_of_ne_nil hne, List.head?_append_of_ne_nil n hn,
      wordBoundary_iff_of_isWord hhead, (isWord_ends hne hb).2] at hleft
    cases hleft
  · refine Decidable.byContradiction fun hne => ?_
    rw [Search.lastOf_of_ne_nil hn, Text.wordBoundary_comm, wordBoundary_iff_of_isWord hlast,
      (isWord_ends hne hr).1] at hright
    cases hright

/-- The cut of a text at its runs is one. -/
theorem Text.ofRuns_runs (text : List Char) : (runs text).OfRuns := by
  fun_induction runs text with
  | case1 => exact .rest fun _ h => nomatch h
  | case2 c later hc ih =>
    refine .hit (fun _ h => nomatch h) ⟨List.cons_ne_nil _ _, ?_⟩ ?_ ih
    · exact List.forall_mem_cons.mpr ⟨hc, fun d hd => List.mem_takeWhile_imp hd⟩
    · rw [text_runs]
      have := List.head?_dropWhile_not isWord later
      cases hd : (later.dropWhile isWord).head? with
      | none => rfl
      | some d =>
        rw [hd] at this
        exact this
  | case3 c later hc ih =>
    exact ih.prepend (List.forall_mem_singleton.mpr (Bool.eq_false_iff.mpr hc))

/-! ### Keywords in runs -/

namespace Keyword

variable {k : Keyword}

/-- Some characters stand for those of the keyword, one by one. -/
def Spells (k : Keyword) (m : List Char) : Prop :=
  List.Forall₂ (fun a b => k.sameChar a b = true) k.text m

/-- In a usual text all characters that are none of words are foreign to a keyword of word
characters. -/
theorem foreign_of_usual (hk : IsRun k.text) {text : List Char} (hu : Usual text) {d : Char}
    (hmem : d ∈ text) (hd : isWord d = false) : k.Foreign d where
  notWord := hd
  notSame a ha := by
    rw [Bool.eq_false_iff]
    intro hsame
    have hword : isWord d = true := by
      unfold sameChar at hsame
      split at hsame
      · rw [← beq_iff_eq.mp hsame]
        exact hk.isWord a ha
      · exact hu.isWord_of_foldEq hmem (hk.isWord a ha) hsame
    rw [hword] at hd
    cases hd

/-- A keyword is looked for run by run: whatever has been put in the place of the runs, what is between
them separates it. -/
theorem replace_cut_replace (hk : k.text ≠ []) {c : Cut} (hc : c.OfRuns)
    (hgap : ∀ d ∈ c.plain, k.Foreign d) (f h : List Char → List (Option (List Char)) → List Char) :
    (k.search.cut (c.replace f)).replace h =
      c.replace fun m g => (k.search.cut (f m g)).replace h := by
  induction hc with
  | @rest t _ =>
    rw [Cut.plain_rest] at hgap
    rw [Cut.replace, ← List.append_nil t, Foreign.cut_append hk hgap, cut_nil hk]
    rfl
  | @hit b m a _ run apart later ih =>
    rw [Cut.plain_hit, List.forall_mem_append] at hgap
    have ih := ih hgap.2
    rw [Cut.replace, Cut.replace, List.append_assoc, Foreign.cut_append hk hgap.1, Cut.replace_prepend,
      List.append_assoc, ← ih]
    congr 1
    -- a run ends with the text, or where a character between runs begins what follows
    rcases later.eq_rest_or_cons apart with rfl | ⟨d, hd, hcons⟩
    · rw [Cut.replace, List.append_nil, cut_nil hk, Cut.replace, List.append_nil]
    · obtain ⟨r, hr⟩ := hcons f
      rw [hr, (hgap.2 d hd).cut_append_cons hk, Cut.replace_append]

/-- Keywords of word characters are looked for one after the other in each run of a usual text. -/
theorem foldl_replace_eq {α : Type} (key : α → Keyword)
    (h : α → List Char → List (Option (List Char)) → List Char) {as : List α}
    (has : ∀ a ∈ as, IsRun (key a).text) {text : List Char} (hu : Usual text) :
    as.foldl (fun t a => ((key a).search.cut t).replace (h a)) text =
      (Text.runs text).replace fun m _ => as.foldl (fun t a => ((key a).search.cut t).replace (h a)) m := by
  induction as using List.reverseRecOn with
  | nil => exact ((Cut.replace_matched _).trans (Text.text_runs text)).symm
  | append_singleton as a ih =>
    rw [List.forall_mem_append, List.forall_mem_singleton] at has
    have hgap : ∀ d ∈ (Text.runs text).plain, (key a).Foreign d := by
      intro d hd
      have hmem : d ∈ text := by
        rw [← Text.text_runs text]
        exact (Text.runs text).plain_sublist.subset hd
      exact foreign_of_usual has.2 hu hmem ((Text.ofRuns_runs text).isWord_plain d hd)
    simp only [List.foldl_append, List.foldl_cons, List.foldl_nil]
    rw [ih has.1, replace_cut_replace has.2.ne_nil (Text.ofRuns_runs text) hgap]

/-- A keyword finds the whole of a run that spells it. -/
theorem cut_of_spells (hk : k.text ≠ []) {m : List Char} (hm : IsRun m) (h : k.Spells m) :
    k.search.cut m = .hit [] m [] (.rest []) := by
  obtain ⟨hhead, hlast⟩ := isWord_ends hm.ne_nil hm.isWord
  have hfront : k.front none m = some m.length := by
    refine front_eq_some_iff.mpr ⟨(List.Forall₂.length_eq h).symm, m, [], by simp, h, fun _ => ⟨?_, ?_⟩⟩
    · exact (wordBoundary_iff_of_isWord hhead).mpr rfl
    · rw [Search.lastOf_of_ne_nil hm.ne_nil, Text.wordBoundary_comm]
      exact (wordBoundary_iff_of_isWord hlast).mpr rfl
  rw [search, Search.cut_ofFront, Search.scan_of_some (front_proper hk) hfront, List.take_length,
    List.drop_length, Search.scan_nil (front_proper hk)]

/-- A bounded keyword finds nothing in a run that does not spell it. -/
theorem cut_of_not_spells (hk : k.text ≠ []) (hbounded : k.bounded = true) {m : List Char}
    (hm : IsRun m) (h : ¬ k.Spells m) : k.search.cut m = .rest m := by
  have htext := Search.text_cut k.search m
  cases hcut : k.search.cut m with
  | rest t =>
    rw [hcut] at htext
    rw [← htext, Cut.text_rest]
  | hit b n g a =>
    rw [hcut, Cut.text_hit, List.append_assoc] at htext
    obtain ⟨hspells, hbound⟩ := front_append_eq_some_iff.mp
      (Search.front_of_scan_eq_hit (front_proper hk) hcut)
    obtain ⟨hleft, hright⟩ := hbound hbounded
    -- the hit is bounded, so it would be all of the run
    obtain ⟨rfl, ha⟩ := Text.eq_nil_of_bounded (htext.symm ▸ hm.isWord) (ne_nil_of_matched hk hspells)
      hleft hright
    rw [ha, List.nil_append, List.append_nil] at htext
    exact absurd (htext ▸ hspells) h

end Keyword

end Annotator
