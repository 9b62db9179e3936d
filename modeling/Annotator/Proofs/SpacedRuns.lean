import Annotator.Proofs.Respacing
import Annotator.Proofs.WordRuns

/-!
# Spacing out runs

For an operator of word characters, respacing a text changes the cut of the text at its runs piece by
piece: a run that spells the operator becomes the operator, and between two runs there is one space in
place of the blanks next to each run that spells it (`respace_eq_spaceOut`). What one operator does to
the text between two runs is not undone by another, whichever comes first, and two operators that are
not spelled alike have no run in common. So it does not matter in which order operators come.

## Key results

- `respace_eq_spaceOut`: respacing changes a text run by run
- `spaceOut_comm`: two operators may be exchanged
- `foldl_respace_perm`: the order of operators does not matter
-/

namespace Annotator.Spacing

open Search (lastOf scan)
open Text (IsRun isBlank isWord trimLeft trimRight)

/-! ### What the search for a run finds -/

section Search

variable {o : String}

theorem isOperator_of_isRun {word : List Char} (h : IsRun word) : IsOperator word where
  ne_nil := h.ne_nil
  ascii c hc := toNat_lt_of_isWord (h.isWord c hc)
  noBlank c hc := by
    rw [Bool.eq_false_iff]
    intro hblank
    have hword := h.isWord c hc
    rw [isWord_eq_false_of_isBlank hblank] at hword
    cases hword

/-- A text tells what comes before its first run, and where the run ends. -/
theorem eq_of_append_run {t m r t' m' r' : List Char} (ht : ∀ d ∈ t, isWord d = false)
    (ht' : ∀ d ∈ t', isWord d = false) (hm : IsRun m) (hm' : IsRun m')
    (hr : r.head?.any isWord = false) (hr' : r'.head?.any isWord = false)
    (h : t ++ (m ++ r) = t' ++ (m' ++ r')) : t = t' ∧ m = m' ∧ r = r' := by
  -- the longest beginning of a kind is what all characters of that kind make up
  have hspan {p : Char → Bool} {a b : List Char} (ha : ∀ d ∈ a, p d = true)
      (hb : b.head?.any p = false) : (a ++ b).takeWhile p = a := by
    rw [List.takeWhile_append_of_pos ha]
    cases b with
    | nil => exact List.append_nil a
    | cons d b => rw [List.takeWhile_cons_of_neg (by simpa using hb), List.append_nil]
  have hgap {t m r : List Char} (ht : ∀ d ∈ t, isWord d = false) (hm : IsRun m) :
      (t ++ (m ++ r)).takeWhile (fun d => !isWord d) = t := by
    refine hspan (fun d hd => by simp [ht d hd]) ?_
    rw [List.head?_append_of_ne_nil m hm.ne_nil]
    cases hd : m.head? with
    | none => rfl
    | some d => simp [hm.isWord d (List.mem_of_head? hd)]
  obtain rfl : t = t' := by rw [← hgap (r := r) ht hm, h, hgap ht' hm']
  have h := List.append_cancel_left h
  obtain rfl : m = m' := by rw [← hspan hm.isWord hr, h, hspan hm'.isWord hr']
  exact ⟨rfl, rfl, List.append_cancel_left h⟩

/-- What the search for an operator of word characters finds in a usual text is a run that spells it,
with the blanks around it. -/
theorem exists_of_front_run (ho : IsRun o.toList) {prev : Option Char} {text : List Char} {n : Nat}
    (hu : Usual text) (h : front (keyword o) prev text = some n) : ∃ b m r, text = b ++ (m ++ r) ∧
      (∀ c ∈ b, isBlank c = true) ∧ Spelled o.toList m ∧ IsRun m ∧
      (lastOf prev b).any isWord = false ∧ r.head?.any isWord = false ∧
      n = b.length + m.length + (r.takeWhile isBlank).length := by
  obtain ⟨b, m, r, rfl, hb, hspelled, hleft, hright, hn⟩ :=
    exists_of_front (isOperator_of_isRun ho).edged h
  have hm : IsRun m := by
    refine ⟨hspelled.ne_nil ho.ne_nil, fun c hc => ?_⟩
    obtain ⟨a, ha, hac⟩ := Results.exists_of_mem_right hspelled hc
    exact hu.isWord_of_foldEq (by simp [hc]) (ho.isWord a ha) hac
  obtain ⟨hhead, hlast⟩ := isWord_ends hm.ne_nil hm.isWord
  rw [wordBoundary_iff_of_isWord hhead] at hleft
  rw [Text.wordBoundary_comm, wordBoundary_iff_of_isWord hlast] at hright
  exact ⟨b, m, r, rfl, hb, hspelled, hm, hleft, hright, hn⟩

/-- The first run of a text is found, with the blanks around it, if it spells the operator. -/
theorem front_of_spelled (ho : IsRun o.toList) {prev : Option Char} {b m r : List Char}
    (hu : Usual (b ++ (m ++ r))) (hb : ∀ c ∈ b, isBlank c = true) (hm : IsRun m)
    (hspelled : Spelled o.toList m) (hleft : (lastOf prev b).any isWord = false)
    (hright : r.head?.any isWord = false) : front (keyword o) prev (b ++ (m ++ r)) =
      some (b.length + m.length + (r.takeWhile isBlank).length) := by
  obtain ⟨hhead, hlast⟩ := isWord_ends hm.ne_nil hm.isWord
  have hne : front (keyword o) prev (b ++ (m ++ r)) ≠ none := by
    refine front_ne_none (isOperator_of_isRun ho).edged hb hspelled ?_ ?_
    · exact (wordBoundary_iff_of_isWord hhead).mpr hleft
    · rw [Text.wordBoundary_comm]
      exact (wordBoundary_iff_of_isWord hlast).mpr hright
  obtain ⟨n, hn⟩ := Option.ne_none_iff_exists'.mp hne
  obtain ⟨b', m', r', heq, hb', -, hm', -, hright', rfl⟩ := exists_of_front_run ho hu hn
  obtain ⟨rfl, rfl, rfl⟩ := eq_of_append_run (fun d hd => isWord_eq_false_of_isBlank (hb d hd))
    (fun d hd => isWord_eq_false_of_isBlank (hb' d hd)) hm hm' hright hright' heq
  exact hn

/-- The first run of a text is not found if it does not spell the operator. -/
theorem front_eq_none_of_not_spelled (ho : IsRun o.toList) {prev : Option Char} {t m r : List Char}
    (hu : Usual (t ++ (m ++ r))) (ht : ∀ d ∈ t, isWord d = false) (hm : IsRun m)
    (hspelled : ¬ Spelled o.toList m) (hright : r.head?.any isWord = false) :
    front (keyword o) prev (t ++ (m ++ r)) = none := by
  rw [Option.eq_none_iff_forall_ne_some]
  intro n hn
  obtain ⟨b, m', r', heq, hb, hspelled', hm', -, hright', -⟩ := exists_of_front_run ho hu hn
  obtain ⟨-, rfl, -⟩ := eq_of_append_run ht (fun d hd => isWord_eq_false_of_isBlank (hb d hd)) hm hm'
    hright hright' heq
  exact hspelled hspelled'

/-- Nothing is found at a place between runs if there is more than blanks before the next run. -/
theorem front_eq_none_of_gap (ho : IsRun o.toList) {prev : Option Char} {t r : List Char}
    (hu : Usual (t ++ r)) (ht : ∀ d ∈ t, isWord d = false) (hmore : ∃ d ∈ t, isBlank d = false) :
    front (keyword o) prev (t ++ r) = none := by
  rw [Option.eq_none_iff_forall_ne_some]
  intro n hn
  obtain ⟨b, m, r', heq, hb, -, hm, -, -, -⟩ := exists_of_front_run ho hu hn
  rcases List.append_eq_append_iff.mp heq with ⟨s, rfl, -⟩ | ⟨s, rfl, hs⟩
  · -- the blanks would reach over the character that is none
    obtain ⟨d, hd, hblank⟩ := hmore
    rw [hb d (List.mem_append_left s hd)] at hblank
    cases hblank
  · -- or the run would begin between runs
    cases s with
    | nil =>
      obtain ⟨d, hd, hblank⟩ := hmore
      rw [List.append_nil] at hd
      rw [hb d hd] at hblank
      cases hblank
    | cons d s =>
      obtain ⟨e, m, rfl⟩ := List.exists_cons_of_ne_nil hm.ne_nil
      obtain ⟨rfl, -⟩ := List.cons.inj hs
      have hword := ht e (List.mem_append_right b List.mem_cons_self)
      rw [hm.isWord e List.mem_cons_self] at hword
      cases hword

/-- Nothing is found where there is no run. -/
theorem front_eq_none_of_no_run (ho : IsRun o.toList) {prev : Option Char} {t : List Char}
    (hu : Usual t) (ht : ∀ d ∈ t, isWord d = false) : front (keyword o) prev t = none := by
  rw [Option.eq_none_iff_forall_ne_some]
  intro n hn
  obtain ⟨b, m, r, rfl, -, -, hm, -, -, -⟩ := exists_of_front_run ho hu hn
  obtain ⟨e, m, rfl⟩ := List.exists_cons_of_ne_nil hm.ne_nil
  have hword := ht e (by simp)
  rw [hm.isWord e List.mem_cons_self] at hword
  cases hword

/-- Nothing is found inside a run. -/
theorem front_eq_none_in_run (ho : IsRun o.toList) {prev : Option Char} {c : Char} {r : List Char}
    (hu : Usual (c :: r)) (hc : isWord c = true) (hprev : prev.any isWord = true) :
    front (keyword o) prev (c :: r) = none := by
  rw [Option.eq_none_iff_forall_ne_some]
  intro n hn
  obtain ⟨b, m, r', heq, hb, -, -, hleft, -, -⟩ := exists_of_front_run ho hu hn
  cases b with
  | nil =>
    rw [Search.lastOf_nil, hprev] at hleft
    cases hleft
  | cons d b =>
    obtain ⟨rfl, -⟩ := List.cons.inj heq
    rw [isWord_eq_false_of_isBlank (hb c List.mem_cons_self)] at hc
    cases hc

end Search

/-! ### Spacing out runs -/

/-- The space next to a run that becomes an operator. -/
def space (beside : Bool) : List Char := if beside then [' '] else []

/-- The text between two runs without the blanks next to those that become operators. -/
def strip (left right : Bool) (t : List Char) : List Char :=
  let t := if left then trimLeft t else t
  if right then trimRight t else t

/-- The text between two runs with one space in place of the blanks next to those that become
operators. -/
def gap (left right : Bool) (t : List Char) : List Char := space left ++ strip left right t ++ space right

/-- The runs of a text with those that spell an operator spaced out, where `left` tells whether there is
one in front. -/
def spaceOut (o : String) (left : Bool) : Cut → Cut
  | .rest t => .rest (gap left false t)
  | .hit b m g a =>
    let here := Text.foldEqText o.toList m
    .hit (gap left here b) (if here then o.toList else m) g (spaceOut o here a)

/-- A text ends in blanks behind the trimmed text, which ends in none. -/
theorem exists_of_trimRight (t : List Char) : ∃ w, t = trimRight t ++ w ∧
    (∀ c ∈ w, isBlank c = true) ∧ ∀ c ∈ (trimRight t).getLast?, isBlank c = false := by
  refine ⟨(t.reverse.takeWhile isBlank).reverse, ?_, fun c hc => ?_, fun c hc => ?_⟩
  · rw [trimRight, ← List.reverse_append, List.takeWhile_append_dropWhile, List.reverse_reverse]
  · exact List.mem_takeWhile_imp (List.mem_reverse.mp hc)
  · rw [trimRight, List.getLast?_reverse] at hc
    have := List.head?_dropWhile_not isBlank t.reverse
    rw [hc] at this
    exact this

theorem strip_subset (left right : Bool) (t : List Char) : strip left right t ⊆ t := by
  cases left <;> cases right
  · exact List.Subset.refl t
  · exact (Text.trimRight_prefix t).subset
  · exact (Text.trimLeft_suffix t).subset
  · exact List.Subset.trans (Text.trimRight_prefix _).subset (Text.trimLeft_suffix t).subset

/-- In front of a run only the text before the run is trimmed. -/
theorem strip_append_run (left : Bool) {m : List Char} (hm : IsRun m) (t r : List Char) :
    strip left false (t ++ (m ++ r)) = strip left false t ++ (m ++ r) := by
  cases left with
  | false => rfl
  | true =>
    obtain ⟨c, m, rfl⟩ := List.exists_cons_of_ne_nil hm.ne_nil
    have hc := (isOperator_of_isRun hm).noBlank c List.mem_cons_self
    simp only [strip, if_true, Bool.false_eq_true, if_false, trimLeft]
    rw [List.dropWhile_append]
    split
    · rename_i hnil
      rw [List.isEmpty_iff.mp hnil, List.cons_append, List.dropWhile_cons_of_neg (by simp [hc])]
      rfl
    · rfl

section Scan

variable {o : String}

/-- Between two runs nothing is found before the last blanks. -/
theorem scan_of_gap (ho : IsRun o.toList) {prev : Option Char} {t r : List Char} (hu : Usual (t ++ r))
    (ht : ∀ d ∈ t, isWord d = false) (hend : ∀ c ∈ t.getLast?, isBlank c = false) :
    scan (front (keyword o)) prev (t ++ r) =
      (scan (front (keyword o)) (lastOf prev t) r).prepend t := by
  refine Search.scan_prepend_of_none (front_proper (isOperator_of_isRun ho).edged) fun s y hsy hy => ?_
  refine front_eq_none_of_gap ho (hu.of_subset (by simp [hsy])) ?_ ?_
  · exact fun d hd => ht d (by simp [hsy, hd])
  · obtain ⟨d, hd⟩ := Option.ne_none_iff_exists'.mp (mt List.getLast?_eq_none_iff.mp hy)
    refine ⟨d, List.mem_of_getLast? hd, hend d ?_⟩
    rw [hsy, List.getLast?_append_of_ne_nil s hy, hd]
    exact rfl

/-- No word character stands in front of a run: neither between two runs, nor before a text that begins
with one. -/
theorem isWord_lastOf_gap {prev : Option Char} {t m r : List Char} (ht : ∀ d ∈ t, isWord d = false)
    (hm : IsRun m) (hprev : prev.any isWord = true → (t ++ (m ++ r)).head?.any isWord = false) :
    (lastOf prev t).any isWord = false := by
  by_cases hnil : t = []
  · rw [hnil, Search.lastOf_nil, Bool.eq_false_iff]
    intro hword
    have hhead := hprev hword
    rw [hnil, List.nil_append, List.head?_append_of_ne_nil m hm.ne_nil,
      (isWord_ends hm.ne_nil hm.isWord).1] at hhead
    cases hhead
  · rw [Search.lastOf_of_ne_nil hnil]
    cases hd : t.getLast? with
    | none => rfl
    | some d => exact ht d (List.mem_of_getLast? hd)

/-- Behind a run and the blanks after it no run begins at once. -/
theorem isWord_head_trimLeft {prev : Option Char} {t r : List Char} (hr : r.head?.any isWord = false)
    (hword : (lastOf prev (t ++ r.takeWhile isBlank)).any isWord = true) :
    (trimLeft r).head?.any isWord = false := by
  -- behind a word character no blank has been taken
  have hnil : r.takeWhile isBlank = [] := by
    refine Decidable.byContradiction fun hne => ?_
    obtain ⟨d, hd⟩ := Option.ne_none_iff_exists'.mp (mt List.getLast?_eq_none_iff.mp hne)
    rw [Search.lastOf_append, Search.lastOf_of_ne_nil hne, hd] at hword
    have hblank := List.mem_takeWhile_imp (List.mem_of_getLast? hd)
    rw [Option.any_some, isWord_eq_false_of_isBlank hblank] at hword
    cases hword
  have hdrop : trimLeft r = r := by
    have := List.takeWhile_append_dropWhile (p := isBlank) (l := r)
    rwa [hnil, List.nil_append] at this
  rwa [hdrop]

/-- A run that spells the operator is the next hit, with the blanks around it. -/
theorem respaced_scan_of_spelled (ho : IsRun o.toList) {prev : Option Char} {t m r : List Char}
    (hu : Usual (t ++ (m ++ r))) (ht : ∀ d ∈ t, isWord d = false) (hm : IsRun m)
    (hr : r.head?.any isWord = false)
    (hprev : prev.any isWord = true → (t ++ (m ++ r)).head?.any isWord = false)
    (hspelled : Spelled o.toList m) :
    ∃ prev', (prev'.any isWord = true → (trimLeft r).head?.any isWord = false) ∧
      respaced o (scan (front (keyword o)) prev (t ++ (m ++ r))) =
        trimRight t ++ padded o ++ respaced o (scan (front (keyword o)) prev' (trimLeft r)) := by
  have hleft := isWord_lastOf_gap ht hm hprev
  obtain ⟨w, htw, hw, hend⟩ := exists_of_trimRight t
  generalize trimRight t = x at htw hend
  subst htw
  rw [List.append_assoc] at hu ⊢
  rw [Search.lastOf_append] at hleft
  have hx : ∀ d ∈ x, isWord d = false := fun d hd => ht d (List.mem_append_left w hd)
  have hfront : front (keyword o) (lastOf prev x) (w ++ (m ++ r)) =
      some (w.length + m.length + (r.takeWhile isBlank).length) :=
    front_of_spelled ho (hu.of_subset (by simp)) hw hm hspelled hleft hr
  -- the hit is the run with the blanks on either side
  have hparts : w ++ (m ++ r) = (w ++ (m ++ r.takeWhile isBlank)) ++ r.dropWhile isBlank := by
    rw [List.append_assoc, List.append_assoc, List.takeWhile_append_dropWhile]
  have hlen : w.length + m.length + (r.takeWhile isBlank).length =
      (w ++ (m ++ r.takeWhile isBlank)).length := by
    simp only [List.length_append]
    omega
  refine ⟨lastOf (lastOf prev x) (w ++ (m ++ r.takeWhile isBlank)), fun hword => ?_, ?_⟩
  · rw [← List.append_assoc] at hword
    exact isWord_head_trimLeft hr hword
  · rw [scan_of_gap ho hu hx hend,
      Search.scan_of_some (front_proper (isOperator_of_isRun ho).edged) hfront, hlen, hparts,
      List.take_left, List.drop_left]
    simp [respaced, Cut.prepend, Cut.replace, trimLeft]

/-- A run that does not spell the operator is passed over. -/
theorem scan_of_not_spelled (ho : IsRun o.toList) {prev : Option Char} {t m r : List Char}
    (hu : Usual (t ++ (m ++ r))) (ht : ∀ d ∈ t, isWord d = false) (hm : IsRun m)
    (hr : r.head?.any isWord = false) (hspelled : ¬ Spelled o.toList m) :
    scan (front (keyword o)) prev (t ++ (m ++ r)) =
      (scan (front (keyword o)) m.getLast? r).prepend (t ++ m) := by
  have hp := front_proper (isOperator_of_isRun ho).edged
  have hlast : m.getLast? = lastOf prev (t ++ m) := by
    rw [Search.lastOf_append, Search.lastOf_of_ne_nil hm.ne_nil]
  rw [hlast, ← List.append_assoc]
  refine Search.scan_prepend_of_none hp fun s y hsy hy => ?_
  have huy : Usual (y ++ r) := by
    refine hu.of_subset ?_
    rw [← List.append_assoc, hsy]
    simp
  -- the place is in front of the run, or inside it
  rcases List.append_eq_append_iff.mp hsy with ⟨u, rfl, rfl⟩ | ⟨u, rfl, rfl⟩
  · cases u with
    | nil =>
      exact front_eq_none_of_not_spelled ho (t := []) huy (fun _ h => nomatch h) hm hspelled hr
    | cons d u =>
      obtain ⟨e, y, rfl⟩ := List.exists_cons_of_ne_nil hy
      refine front_eq_none_in_run ho huy (hm.isWord e (by simp)) ?_
      rw [Search.lastOf_append, Search.lastOf_of_ne_nil (List.cons_ne_nil d u)]
      exact (isWord_ends (List.cons_ne_nil d u) fun c hc => hm.isWord c
        (List.mem_append_left _ hc)).2
  · rw [List.append_assoc] at huy ⊢
    exact front_eq_none_of_not_spelled ho huy (fun d hd => ht d (List.mem_append_right s hd)) hm
      hspelled hr

/-- Respacing what follows an operator, or what does not, spaces out its runs. -/
theorem respaced_scan_eq (ho : IsRun o.toList) {c : Cut} (hc : c.OfRuns) (hu : Usual c.text)
    (left : Bool) {prev : Option Char}
    (hprev : prev.any isWord = true → (strip left false c.text).head?.any isWord = false) :
    space left ++ respaced o (scan (front (keyword o)) prev (strip left false c.text)) =
      (spaceOut o left c).text := by
  induction hc generalizing left prev with
  | @rest t ht =>
    have hp := front_proper (isOperator_of_isRun ho).edged
    have hnone : scan (front (keyword o)) prev (strip left false t) = .rest (strip left false t) := by
      refine Search.scan_of_forall_none hp prev fun p rest _ hsuf => ?_
      have hsub := List.Subset.trans hsuf.subset (strip_subset left false t)
      exact front_eq_none_of_no_run ho (hu.of_subset hsub) fun d hd => ht d (hsub hd)
    rw [Cut.text_rest, hnone, respaced_rest, spaceOut, Cut.text_rest, gap, space.eq_1 false]
    simp
  | @hit b m a hb hm hapart ha ih =>
    rw [Cut.text_hit, List.append_assoc] at hu hprev
    rw [strip_append_run left hm] at hprev
    simp only [Cut.text_hit, List.append_assoc, strip_append_run left hm, spaceOut, gap]
    -- the text before the run, without the blanks that an operator in front has taken
    have hsub := strip_subset left false b
    have hstrip : strip left true b = trimRight (strip left false b) := rfl
    generalize hsame : strip left false b = t at hsub hprev hstrip
    have ht : ∀ d ∈ t, isWord d = false := fun d hd => hb d (hsub hd)
    have hu' : Usual (t ++ (m ++ a.text)) := by
      refine hu.of_subset fun d hd => ?_
      rcases List.mem_append.mp hd with hd | hd
      · exact List.mem_append_left _ (hsub hd)
      · exact List.mem_append_right b hd
    have hua : Usual a.text := hu.of_subset (by simp)
    by_cases hspelled : Spelled o.toList m
    · obtain ⟨prev', hprev', heq⟩ := respaced_scan_of_spelled ho hu' ht hm hapart hprev hspelled
      have ih : [' '] ++ respaced o (scan (front (keyword o)) prev' (trimLeft a.text)) =
          (spaceOut o true a).text := ih hua true hprev'
      rw [foldEqText_iff.mpr hspelled, if_pos rfl, hstrip, heq, ← ih]
      simp [padded, space]
    · have ih : respaced o (scan (front (keyword o)) m.getLast? a.text) = (spaceOut o false a).text :=
        ih hua false fun _ => hapart
      have hnot : Text.foldEqText o.toList m = false := by
        rw [Bool.eq_false_iff]
        exact mt foldEqText_iff.mp hspelled
      rw [hnot, if_neg Bool.false_ne_true, hsame, scan_of_not_spelled ho hu' ht hm hapart hspelled,
        respaced, Cut.replace_prepend, ← respaced, ih]
      simp [space]

/-- Respacing a usual text spaces out its runs. -/
theorem respace_eq_spaceOut (ho : IsRun o.toList) {c : Cut} (hc : c.OfRuns) (hu : Usual c.text) :
    respace c.text o = (spaceOut o false c).text :=
  respaced_scan_eq ho hc hu false fun h => nomatch h

end Scan

/-! ### Spaced out texts -/

theorem gap_false (t : List Char) : gap false false t = t := by simp [gap, space, strip]

/-- Between two runs there are no word characters afterwards. -/
theorem isWord_gap {left right : Bool} {t : List Char} (ht : ∀ d ∈ t, isWord d = false) :
    ∀ d ∈ gap left right t, isWord d = false := by
  have hspace (beside : Bool) : ∀ d ∈ space beside, isWord d = false := by
    cases beside with
    | false => exact fun _ h => nomatch h
    | true => exact List.forall_mem_singleton.mpr (by decide)
  intro d hd
  rw [gap, List.mem_append, List.mem_append] at hd
  rcases hd with (hd | hd) | hd
  · exact hspace left d hd
  · exact ht d (strip_subset left right t hd)
  · exact hspace right d hd

/-- Runs do not touch afterwards. -/
theorem isWord_head_spaceOut {o : String} (left : Bool) {c : Cut} (hc : c.OfRuns)
    (hhead : c.text.head?.any isWord = false) : (spaceOut o left c).text.head?.any isWord = false := by
  -- what begins with something between runs does so afterwards
  have hgap (right : Bool) {t : List Char} (r : List Char) (ht : ∀ d ∈ t, isWord d = false)
      (hne : gap left right t ≠ []) : (gap left right t ++ r).head?.any isWord = false := by
    rw [List.head?_append_of_ne_nil _ hne]
    cases hd : (gap left right t).head? with
    | none => rfl
    | some d => exact isWord_gap ht d (List.mem_of_head? hd)
  cases hc with
  | @rest t ht =>
    rw [spaceOut, Cut.text_rest]
    by_cases hne : gap left false t = []
    · rw [hne]
      rfl
    · have := hgap false [] ht hne
      rwa [List.append_nil] at this
  | @hit b m a hb hm _ _ =>
    simp only [spaceOut, Cut.text_hit, List.append_assoc]
    refine hgap _ _ hb ?_
    -- before a run that something precedes there is something afterwards
    have hb' : b ≠ [] := by
      rintro rfl
      rw [Cut.text_hit, List.nil_append, List.head?_append_of_ne_nil m hm.ne_nil,
        (isWord_ends hm.ne_nil hm.isWord).1] at hhead
      cases hhead
    cases left <;> cases Text.foldEqText o.toList m <;> simp [gap, space, strip, hb']

/-- Spacing out the runs of a text makes a cut at runs. -/
theorem ofRuns_spaceOut {o : String} (ho : IsRun o.toList) (left : Bool) {c : Cut} (hc : c.OfRuns) :
    (spaceOut o left c).OfRuns := by
  induction hc generalizing left with
  | rest ht => exact .rest (isWord_gap ht)
  | @hit b m a hb hm hapart ha ih =>
    rw [spaceOut]
    refine .hit (isWord_gap hb) ?_ (isWord_head_spaceOut _ ha hapart) (ih _)
    split
    · exact ho
    · exact hm

/-! ### The order of operators -/

private theorem trimLeft_append {p u : List Char} (hp : ∀ c ∈ p, isBlank c = true)
    (hu : ∀ c ∈ u.head?, isBlank c = false) : trimLeft (p ++ u) = u := by
  rw [trimLeft, List.dropWhile_append_of_pos hp]
  cases u with
  | nil => rfl
  | cons c u => exact List.dropWhile_cons_of_neg (by simp [hu c rfl])

private theorem trimRight_append {s u : List Char} (hs : ∀ c ∈ s, isBlank c = true)
    (hu : ∀ c ∈ u.getLast?, isBlank c = false) : trimRight (u ++ s) = u := by
  rw [← List.head?_reverse] at hu
  have hleft := trimLeft_append (fun c hc => hs c (List.mem_reverse.mp hc)) hu
  rw [trimRight, List.reverse_append, ← trimLeft, hleft, List.reverse_reverse]

/-- Blanks give way to a space on either side of a text, whichever side comes first. -/
private theorem trim_comm (t : List Char) :
    trimRight (' ' :: trimLeft t) ++ [' '] = ' ' :: trimLeft (trimRight t ++ [' ']) := by
  obtain ⟨p, s, heq, hp, hs⟩ := exists_of_trim t
  obtain ⟨hhead, hlast⟩ := isBlank_ends_trim t
  generalize Text.trim t = u at heq hhead hlast
  subst heq
  have hspace : ∀ c ∈ [' '], isBlank c = true := List.forall_mem_singleton.mpr (by decide)
  by_cases hu : u = []
  · -- there is nothing but blanks, and one space is left of them
    subst hu
    have hblank : ∀ c ∈ p ++ ([] ++ s), isBlank c = true := by
      rw [List.nil_append, List.forall_mem_append]
      exact ⟨hp, hs⟩
    have hleft := trimLeft_append (u := []) hblank (fun _ h => nomatch h)
    have hright := trimRight_append (u := []) hblank (fun _ h => nomatch h)
    rw [List.append_nil] at hleft
    rw [List.nil_append] at hright
    rw [hleft, hright]
    rfl
  · have hleft := trimLeft_append (u := u ++ s) hp (by rwa [List.head?_append_of_ne_nil u hu])
    have hright := trimRight_append (u := p ++ u) hs (by rwa [List.getLast?_append_of_ne_nil p hu])
    have hleft' := trimLeft_append (u := u ++ [' ']) hp (by rwa [List.head?_append_of_ne_nil u hu])
    have hright' := trimRight_append (u := ' ' :: u) hs
      (by rwa [← List.singleton_append, List.getLast?_append_of_ne_nil [' '] hu])
    rw [List.append_assoc] at hright
    rw [hleft, ← List.cons_append, hright', hright, List.append_assoc, hleft']
    rfl

/-- Two operators, at most one of which takes the run on either side, may be exchanged between runs. -/
theorem gap_comm {l l' r r' : Bool} (hl : ¬ (l = true ∧ l' = true)) (hr : ¬ (r = true ∧ r' = true))
    (t : List Char) : gap l' r' (gap l r t) = gap l r (gap l' r' t) := by
  have hboth : gap false true (gap true false t) = gap true false (gap false true t) := by
    simpa [gap, space, strip] using trim_comm t
  cases l with
  | false =>
    cases r with
    | false => rw [gap_false, gap_false]
    | true =>
      obtain rfl : r' = false := by simpa using hr
      cases l' with
      | false => rw [gap_false, gap_false]
      | true => exact hboth.symm
  | true =>
    obtain rfl : l' = false := by simpa using hl
    cases r' with
    | false => rw [gap_false, gap_false]
    | true =>
      obtain rfl : r = false := by simpa using hr
      exact hboth

/-- Two operators that are not spelled alike may be exchanged. -/
theorem spaceOut_comm {o o' : String} (hne : ∀ m, Spelled o.toList m → ¬ Spelled o'.toList m)
    {l l' : Bool} (hl : ¬ (l = true ∧ l' = true)) (c : Cut) :
    spaceOut o' l' (spaceOut o l c) = spaceOut o l (spaceOut o' l' c) := by
  have hself (o : String) : Spelled o.toList o.toList :=
    List.forall₂_same.mpr fun c _ => Text.foldEq_refl c
  have hfalse {o : String} {m : List Char} (h : ¬ Spelled o.toList m) :
      Text.foldEqText o.toList m = false := by
    rw [Bool.eq_false_iff]
    exact mt foldEqText_iff.mp h
  -- no run becomes both operators, so between two runs at most one of them takes either side
  induction c generalizing l l' with
  | rest t => rw [spaceOut, spaceOut, spaceOut, spaceOut, gap_comm hl (by simp)]
  | hit b m g a ih =>
    simp only [spaceOut]
    by_cases ho : Spelled o.toList m
    · have hm := hfalse (hne m ho)
      have ho' := hfalse (hne o.toList (hself o))
      simp only [foldEqText_iff.mpr ho, hm, ho', if_true, Bool.false_eq_true, if_false]
      rw [gap_comm hl (by simp), ih (by simp)]
    · by_cases ho' : Spelled o'.toList m
      · have hm := hfalse ho
        have hswap := hfalse fun h => hne o'.toList h (hself o')
        simp only [foldEqText_iff.mpr ho', hm, hswap, if_true, Bool.false_eq_true, if_false]
        rw [gap_comm hl (by simp), ih (by simp)]
      · simp only [hfalse ho, hfalse ho', Bool.false_eq_true, if_false]
        rw [gap_comm hl (by simp), ih (by simp)]

/-- Operators of word characters space out the runs of a usual text one after the other. -/
theorem foldl_respace_eq {operators : List String} (hops : ∀ o ∈ operators, IsRun o.toList) {c : Cut}
    (hc : c.OfRuns) (hu : Usual c.text) :
    operators.foldl respace c.text = (operators.foldl (fun c o => spaceOut o false c) c).text := by
  induction operators generalizing c with
  | nil => rfl
  | cons o later ih =>
    obtain ⟨ho, hlater⟩ := List.forall_mem_cons.mp hops
    have heq := respace_eq_spaceOut ho hc hu
    have hnext : Usual (spaceOut o false c).text :=
      heq ▸ usual_respace (fun d hd => toNat_lt_of_isWord (ho.isWord d hd)) hu
    rw [List.foldl_cons, List.foldl_cons, heq, ih hlater (ofRuns_spaceOut ho false hc) hnext]

/-- In a usual text it does not matter in which order operators of word characters come, no two of
which are spelled alike. -/
theorem foldl_respace_perm {operators operators' : List String} (hperm : operators.Perm operators')
    (hops : ∀ o ∈ operators, IsRun o.toList)
    (hdist : ∀ o ∈ operators, ∀ o' ∈ operators, Spelled o.toList o'.toList → o = o')
    {text : List Char} (hu : Usual text) :
    operators.foldl respace text = operators'.foldl respace text := by
  have hc := Text.ofRuns_runs text
  have htext := Text.text_runs text
  rw [← htext] at hu ⊢
  rw [foldl_respace_eq hops hc hu, foldl_respace_eq (fun o ho => hops o (hperm.symm.subset ho)) hc hu]
  congr 1
  refine hperm.foldl_eq' (fun o ho o' ho' c => ?_) _
  by_cases heq : o = o'
  · rw [heq]
  · refine spaceOut_comm (fun m hm hm' => heq (hdist o ho o' ho' ?_)) (by simp) c
    -- spellings of one run are spellings of each other
    exact hm.trans hm'.symm

end Annotator.Spacing
