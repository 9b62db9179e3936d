import Annotator.Proofs.KeywordSearch
import Annotator.Proofs.Occurrences

/-!
# Balanced markup

The words of a rule are taken one after the other, so a later word may find something in the tags of
an earlier one. If it does so in what opening tags begin with as well as in closing tags, or in
neither, then the markup stays balanced: a word either breaks all opening and closing tags that it
meets, or none of them.

What was put before a word is followed through the text in blocks: each opening bracket begins what
earlier words have left of a tag (`Remains`), and ends where the next one stands.

## Key results

- `WordMarking.Clean.balanced_apply`: a word that is even keeps a text in blocks balanced
- `WordMarking.Clean.balanced_apply_wrap_iff`: only such a word keeps the span of another balanced
- `Highlighter.balanced_highlight`: the markup of a text is balanced
-/

namespace Annotator

open Search (lastOf)

namespace Markup

/-! ### What is left of a tag -/

/-- What hits leave of a tag and the text behind it: the tag with what is left of the text, or a
beginning of the tag. If `whole`, no word is cut. -/
inductive Remains (whole : Prop) (t : List Char) : List Char → Prop
  | all {v : List Char} (plain : '<' ∉ v) : Remains whole t (t ++ v)
  | start {u later : List Char} {d : Char} (tag : t = u ++ d :: later) (nonempty : u ≠ [])
      (cut : whole → (lastOf none u).any Text.isWord = true → Text.isWord d = false) :
      Remains whole t u

variable {whole : Prop} {t x : List Char}

/-- What is left of a tag begins with an opening bracket and has no other one. -/
theorem Remains.cons (ht : '<' ∉ t) (h : Remains whole ('<' :: t) x) :
    ∃ r, x = '<' :: r ∧ '<' ∉ r := by
  cases h with
  | @all v plain => exact ⟨t ++ v, rfl, by simp [ht, plain]⟩
  | start tag nonempty _ =>
    obtain ⟨c, u, rfl⟩ := List.exists_cons_of_ne_nil nonempty
    obtain ⟨rfl, rfl⟩ := List.cons.inj tag
    exact ⟨u, rfl, fun hmem => ht (List.mem_append_left _ hmem)⟩

/-- What a keyword leaves of what is left of a tag. -/
theorem Remains.first {k : Keyword} (hk : k.text ≠ []) (hopen : k.Avoids '<') (ht : '<' ∉ t)
    (hwhole : whole → k.Whole) (h : Remains whole ('<' :: t) x) :
    Remains whole ('<' :: t) (k.search.cut x).first := by
  have hne : (k.search.cut x).first ≠ [] := by
    obtain ⟨r, rfl, _⟩ := h.cons ht
    obtain ⟨b, hb⟩ := hopen.foreign.first_cons hk r
    rw [hb]
    exact List.cons_ne_nil _ _
  rcases Keyword.first_cases hk x with heq | ⟨d, later, heq, hcut⟩
  · rwa [heq]
  generalize (k.search.cut x).first = b at hne heq hcut
  -- what is left ends where it ended, or inside the tag, at the first place where the keyword is found
  cases h with
  | @all v plain =>
    rcases List.append_eq_append_iff.mp heq with ⟨z, rfl, rfl⟩ | ⟨z, htag, hz⟩
    · exact .all fun hmem => plain (List.mem_append_left _ hmem)
    · cases z with
      | nil =>
        have hall : Remains whole b (b ++ []) := .all List.not_mem_nil
        rw [List.append_nil] at htag hall
        rwa [htag]
      | cons e z =>
        obtain ⟨rfl, -⟩ := List.cons.inj hz
        exact .start htag hne fun hw => hcut (hwhole hw)
  | @start _ later' d' tag _ _ =>
    rw [heq, List.append_assoc, List.cons_append] at tag
    exact .start tag hne fun hw => hcut (hwhole hw)

/-! ### Texts in blocks -/

/-- A text without opening brackets, followed by blocks that satisfy `B`. -/
inductive Blocks (B : List Char → Prop) : List Char → Prop
  | plain {t : List Char} (h : '<' ∉ t) : Blocks B t
  | snoc {x b : List Char} (front : Blocks B x) (block : B b) : Blocks B (x ++ b)

/-- Putting hits in spans makes two blocks of each hit. -/
theorem Blocks.append_replace_wrap {B : List Char → Prop} {o : List Char}
    (hopen : ∀ m, '<' ∉ m → B (o ++ m)) (hclose : ∀ v, '<' ∉ v → B (closing ++ v)) {c : Cut}
    (hc : PlainBehind c) {y : List Char} (hfirst : Blocks B (y ++ c.first)) :
    Blocks B (y ++ c.replace fun m _ => wrap o m) := by
  induction c generalizing y with
  | rest t => exact hfirst
  | hit b m g a ih =>
    have ⟨hm, ha⟩ := hc.hit
    have hafter := (hfirst.snoc (hopen m hm)).snoc (hclose a.first (not_mem_first ha))
    rw [← List.append_assoc] at hafter
    have := ih (plainBehind_of_not_mem ha) hafter
    simpa [Cut.first, Cut.replace, wrap] using this

end Markup

/-! ### Words -/

namespace WordMarking

variable {w e : WordMarking}

/-- A word of which the tags of another word keep as many opening as closing tags. -/
def Even (w e : WordMarking) : Prop := Markup.Balanced (w.apply (e.opening ++ Markup.closing))

instance (w e : WordMarking) : Decidable (w.Even e) :=
  inferInstanceAs (Decidable (Markup.Balanced _))

/-- A word that finds nothing in closing tags. -/
def Spares (w : WordMarking) : Prop :=
  Markup.closing <+: (w.keyword.search.cut Markup.closing).first

instance (w : WordMarking) : Decidable w.Spares :=
  inferInstanceAs (Decidable (_ <+: _))

/-- A word that is put in spans, is not empty and has no angle bracket; unless `whole`, it is not
bounded, and if `whole` it does not cut words. -/
structure Clean (whole : Prop) (w : WordMarking) : Prop where
  opening : Markup.IsOpening w.opening
  text_ne_nil : w.keyword.text ≠ []
  bracketFree : Markup.BracketFree w.keyword.text
  whole_of_bounded : w.keyword.bounded = true → whole
  whole : whole → w.keyword.Whole

variable {whole : Prop}

theorem Clean.avoidsOpen (hw : w.Clean whole) : w.keyword.Avoids '<' :=
  ⟨by decide, by decide, hw.bracketFree.1⟩

theorem Clean.avoidsClose (hw : w.Clean whole) : w.keyword.Avoids '>' :=
  ⟨by decide, by decide, hw.bracketFree.2⟩

/-- A word is put in spans piece by piece where the second piece begins with an opening bracket. -/
theorem Clean.apply_append_cons (hw : w.Clean whole) (a b : List Char) :
    w.apply (a ++ '<' :: b) = w.apply a ++ w.apply ('<' :: b) := by
  rw [apply, hw.avoidsOpen.foreign.cut_append_cons hw.text_ne_nil, Cut.replace_append]
  rfl

/-- Text behind an opening tag is searched for itself. -/
theorem Clean.cut_opening_append (hw : w.Clean whole) (he : Markup.IsOpening e.opening)
    (v : List Char) : w.keyword.search.cut (e.opening ++ v) =
      (w.keyword.search.cut e.opening).append (w.keyword.search.cut v) := by
  obtain ⟨inner, _, heq⟩ := he
  rw [heq]
  exact hw.avoidsClose.foreign.cut_append_of_last hw.text_ne_nil _ v

/-- In a block, opening brackets stand only before the first hit. -/
theorem Clean.plainBehind_cut (hw : w.Clean whole) {r : List Char} (hr : '<' ∉ r) :
    Markup.PlainBehind (w.keyword.search.cut ('<' :: r)) := by
  intro rest heq
  obtain ⟨b, hb⟩ := hw.avoidsOpen.foreign.first_cons hw.text_ne_nil r
  rw [Search.text_cut, hb] at heq
  obtain ⟨-, rfl⟩ := List.cons.inj heq
  exact fun hmem => hr (List.mem_append_right _ hmem)

/-- What a word makes of a block begins with the opening bracket of the block. -/
theorem Clean.apply_cons (hw : w.Clean whole) (r : List Char) :
    ∃ z, w.apply ('<' :: r) = '<' :: z := by
  obtain ⟨b, hb⟩ := hw.avoidsOpen.foreign.first_cons hw.text_ne_nil r
  rw [apply_eq]
  cases hcut : w.keyword.search.cut ('<' :: r) with
  | rest t =>
    rw [hcut] at hb
    exact ⟨b, hb⟩
  | hit b' m g a =>
    rw [hcut] at hb
    obtain rfl : b' = '<' :: b := hb
    exact ⟨_, by simp only [Cut.replace, List.cons_append]; rfl⟩

/-- The tags in what a word makes of a text and a block behind it. -/
theorem Clean.occurrences_apply_append {word : List Char} (hword : Markup.Counted word)
    (hw : w.Clean whole) (a r : List Char) :
    Markup.occurrences word (w.apply (a ++ '<' :: r)) =
      Markup.occurrences word (w.apply a) + Markup.occurrences word (w.apply ('<' :: r)) := by
  obtain ⟨z, hz⟩ := hw.apply_cons r
  rw [hw.apply_append_cons, hz, Markup.occurrences_append_cons hword]

/-- A word adds as many tags of either kind to a block as it is found in it, and may break the tag
that the block begins with. -/
theorem Clean.occurrences_apply {word : List Char} (hword : Markup.Counted word)
    (hw : w.Clean whole) {r : List Char} (hr : '<' ∉ r) :
    Markup.occurrences word (w.apply ('<' :: r)) =
      (if word <+: (w.keyword.search.cut ('<' :: r)).first then 1 else 0) +
        (w.keyword.search.cut ('<' :: r)).hits.length := by
  have hfirst := (w.keyword.search.cut ('<' :: r)).first_prefix_text
  rw [Search.text_cut] at hfirst
  rw [apply_eq, Markup.occurrences_replace_wrap hword hw.opening (hw.plainBehind_cut hr),
    Markup.occurrences_of_prefix hword hfirst hr]

private theorem ite_add_eq_iff {P Q : Prop} [Decidable P] [Decidable Q] (m n : Nat) :
    (if P then 1 else 0) + m + (0 + n) = 0 + m + ((if Q then 1 else 0) + n) ↔ (P ↔ Q) := by
  by_cases hP : P
  · by_cases hQ : Q
    · exact iff_of_true (by rw [if_pos hP, if_pos hQ]; omega) (iff_of_true hP hQ)
    · exact iff_of_false (by rw [if_pos hP, if_neg hQ]; omega) fun h => hQ (h.mp hP)
  · by_cases hQ : Q
    · exact iff_of_false (by rw [if_neg hP, if_pos hQ]; omega) fun h => hP (h.mpr hQ)
    · exact iff_of_true (by rw [if_neg hP, if_neg hQ]) (iff_of_false hP hQ)

/-- What a word makes of a text in a span is balanced if and only if it breaks both tags of the span
or neither. -/
theorem Clean.balanced_apply_wrap (hw : w.Clean whole) (he : Markup.IsOpening e.opening)
    {s : List Char} (hs : '<' ∉ s) :
    Markup.Balanced (w.apply (Markup.wrap e.opening s)) ↔
      (Markup.spanOpening <+: (w.keyword.search.cut e.opening).first ↔ w.Spares) := by
  obtain ⟨r, hr, hrfree⟩ := he.cons
  obtain ⟨c, hc, hcfree, _⟩ := Markup.counted_closing.exists_cons
  have hrs : '<' ∉ r ++ s := by
    rw [List.mem_append, not_or]
    exact ⟨hrfree, hs⟩
  have hos : e.opening ++ s = '<' :: (r ++ s) := by rw [hr, List.cons_append]
  have hcount {word : List Char} (hword : Markup.Counted word) :
      Markup.occurrences word (w.apply (Markup.wrap e.opening s)) =
        ((if word <+: (w.keyword.search.cut (e.opening ++ s)).first then 1 else 0) +
          (w.keyword.search.cut (e.opening ++ s)).hits.length) +
        ((if word <+: (w.keyword.search.cut Markup.closing).first then 1 else 0) +
          (w.keyword.search.cut Markup.closing).hits.length) := by
    rw [Markup.wrap, hc, hw.occurrences_apply_append hword, hos, hw.occurrences_apply hword hrs,
      hw.occurrences_apply hword hcfree]
  have hopen : Markup.spanOpening <+: (w.keyword.search.cut (e.opening ++ s)).first ↔
      Markup.spanOpening <+: (w.keyword.search.cut e.opening).first := by
    rw [hw.cut_opening_append he]
    exact Cut.prefix_first_append (by rw [Search.text_cut]; exact he.spanOpening_prefix) _
  -- neither tag is mistaken for the other
  have hnotClose : ¬ Markup.closing <+: (w.keyword.search.cut (e.opening ++ s)).first := fun h => by
    have := h.trans (Cut.first_prefix_text _)
    rw [Search.text_cut] at this
    exact he.not_closing_prefix s this
  have hnotOpen : ¬ Markup.spanOpening <+: (w.keyword.search.cut Markup.closing).first := fun h => by
    have := h.trans (Cut.first_prefix_text _)
    rw [Search.text_cut] at this
    exact Markup.not_spanOpening_prefix_closing [] (by rwa [List.append_nil])
  rw [Markup.Balanced, hcount Markup.counted_spanOpening, hcount Markup.counted_closing,
    if_neg hnotClose, if_neg hnotOpen, ← hopen]
  exact ite_add_eq_iff _ _

/-- A word is even if it breaks both tags of the other word or neither. -/
theorem Clean.even_iff (hw : w.Clean whole) (he : Markup.IsOpening e.opening) : w.Even e ↔
    (Markup.spanOpening <+: (w.keyword.search.cut e.opening).first ↔ w.Spares) := by
  have := hw.balanced_apply_wrap he (s := []) List.not_mem_nil
  rwa [Markup.wrap, List.append_nil] at this

/-- A word that finds nothing in the tags of another word is even. -/
theorem Clean.even_of_misses (hw : w.Clean whole) (he : Markup.IsOpening e.opening)
    (h : w.Misses e) : w.Even e := by
  have hp := Keyword.front_proper hw.text_ne_nil
  have hopening : w.keyword.search.cut e.opening = .rest e.opening :=
    Search.scan_of_search_none hp h.opening
  have hclosing : w.keyword.search.cut Markup.closing = .rest Markup.closing :=
    Search.scan_of_search_none hp h.closing
  rw [hw.even_iff he, Spares, hopening, hclosing]
  exact iff_of_true he.spanOpening_prefix (List.prefix_refl _)

/-- A word keeps the span of another word balanced if and only if it is even. -/
theorem Clean.balanced_apply_wrap_iff (hw : w.Clean whole) (he : Markup.IsOpening e.opening)
    {s : List Char} (hs : '<' ∉ s) :
    Markup.Balanced (w.apply (Markup.wrap e.opening s)) ↔ w.Even e :=
  (hw.balanced_apply_wrap he hs).trans (hw.even_iff he).symm

/-! ### What a word does to blocks -/

/-- A word with a space is not found in closing tags. -/
theorem Clean.spares_of_space (hw : w.Clean whole) (hspace : ' ' ∈ w.keyword.text) : w.Spares := by
  have hp := Keyword.front_proper hw.text_ne_nil
  have hfirst : Markup.closing <+:
      (Search.scan w.keyword.front none (Markup.closing ++ [])).first := by
    refine (Search.prefix_first_scan_iff hp).mpr fun s t hs _ => ?_
    refine Keyword.front_eq_none_of_not_mem (by decide) hspace _ fun hmem => ?_
    rw [List.append_nil] at hmem
    have : ' ' ∈ Markup.closing := hs ▸ List.mem_append_right s hmem
    exact absurd this (by decide)
  rwa [List.append_nil] at hfirst

/-- What a word finds in a beginning of a tag it also finds in the tag. -/
theorem Clean.prefix_first_of_append (hw : w.Clean whole) {word r later : List Char} {d : Char}
    (hcut : whole → (lastOf none (word ++ r)).any Text.isWord = true → Text.isWord d = false)
    (h : word <+: (w.keyword.search.cut (word ++ (r ++ d :: later))).first) :
    word <+: (w.keyword.search.cut (word ++ r)).first := by
  have hp := Keyword.front_proper hw.text_ne_nil
  refine (Search.prefix_first_scan_iff hp).mpr fun s t hs ht => ?_
  have hnone := (Search.prefix_first_scan_iff hp).mp h s t hs ht
  rw [Option.eq_none_iff_forall_ne_some]
  intro n hn
  have hlonger := Keyword.front_append_of_eq_some hw.text_ne_nil hn (d := d) (fun hb hlast => ?_) later
  · rw [List.append_assoc, hnone] at hlonger
    cases hlonger
  · refine hcut (hw.whole_of_bounded hb) ?_
    rwa [hs, List.append_assoc, Search.lastOf_append]

/-- A word without a space finds the same in front of a space, whatever follows, as in front of the
end. -/
theorem Clean.prefix_first_iff_of_not_space (hw : w.Clean whole) (hspace : ' ' ∉ w.keyword.text)
    {word r later z : List Char} (hz : r ++ later = ' ' :: z) :
    word <+: (w.keyword.search.cut (word ++ r)).first ↔
      word <+: (w.keyword.search.cut (word ++ (r ++ later))).first := by
  have hp := Keyword.front_proper hw.text_ne_nil
  have hd : w.keyword.Avoids ' ' := ⟨by decide, by decide, hspace⟩
  have hfront (p : Option Char) (t : List Char) :
      w.keyword.front p (t ++ r) = w.keyword.front p (t ++ (r ++ later)) := by
    rw [hz, hd.foreign.front_append_cons hw.text_ne_nil]
    cases r with
    | nil => rw [List.append_nil]
    | cons c r =>
      obtain ⟨rfl, -⟩ := List.cons.inj hz
      exact hd.foreign.front_append_cons hw.text_ne_nil p t r
  refine (Search.prefix_first_scan_iff hp).trans (Iff.trans ?_ (Search.prefix_first_scan_iff hp).symm)
  simp only [hfront]

/-- A space stands behind what opening tags begin with. -/
theorem exists_space_of_opening (he : Markup.IsOpening e.opening) {r : List Char}
    (h : e.opening = Markup.spanOpening ++ r) : ∃ z, r = ' ' :: z := by
  obtain ⟨inner, _, hinner⟩ := he
  have heq : Markup.spanOpening ++ r = Markup.spanOpening ++ ' ' :: (inner ++ ['>']) := by
    rw [← h, hinner]
    rfl
  exact ⟨_, List.append_cancel_left heq⟩

/-- A beginning of an opening tag keeps what opening tags begin with if and only if the tag does, for
a word that is even. -/
theorem Clean.prefix_first_start (hw : w.Clean whole) (he : Markup.IsOpening e.opening)
    (heven : w.Even e) {u later : List Char} {d : Char} (htag : e.opening = u ++ d :: later)
    (hcut : whole → (lastOf none u).any Text.isWord = true → Text.isWord d = false)
    (hpre : Markup.spanOpening <+: u) :
    Markup.spanOpening <+: (w.keyword.search.cut u).first ↔ w.Spares := by
  have heven := (hw.even_iff he).mp heven
  obtain ⟨r, rfl⟩ := hpre
  rw [List.append_assoc] at htag
  rw [htag] at heven
  by_cases hspace : ' ' ∈ w.keyword.text
  · -- the word spares closing tags, so it breaks no whole opening tag, and no beginning of one
    have hspares := hw.spares_of_space hspace
    exact iff_of_true (hw.prefix_first_of_append hcut (heven.mpr hspares)) hspares
  · -- what the word finds in the tag ends before the space, so the cut behind it does not matter
    obtain ⟨z, hz⟩ := exists_space_of_opening he htag
    exact (hw.prefix_first_iff_of_not_space hspace hz).trans heven

/-- A block among words: what is left of one of their tags. -/
def Block (whole : Prop) (ws : List WordMarking) (x : List Char) : Prop :=
  ∃ t, TagOf ws t ∧ Markup.Remains whole t x

theorem TagOf.cons {ws : List WordMarking} (hws : ∀ e ∈ ws, Markup.IsOpening e.opening)
    {t : List Char} (ht : TagOf ws t) : ∃ r, t = '<' :: r ∧ '<' ∉ r := by
  obtain ⟨e, he, rfl | rfl⟩ := ht
  · exact (hws e he).cons
  · obtain ⟨r, hr, hfree, _⟩ := Markup.counted_closing.exists_cons
    exact ⟨r, hr, hfree⟩

variable {ws : List WordMarking}

/-- Of an opening tag that a block begins with, an even word breaks what is counted if and only if it
breaks closing tags. -/
private theorem Clean.prefix_first_opening {word : List Char} (hword : Markup.Counted word)
    (hw : w.Clean whole) (he : Markup.IsOpening e.opening) (heven : w.Even e) {x : List Char}
    (hx : Markup.Remains whole e.opening x) (hpre : word <+: x) :
    word <+: (w.keyword.search.cut x).first ↔ w.Spares := by
  rcases hword with rfl | rfl
  · cases hx with
    | all _ =>
      have htext : Markup.spanOpening <+: (w.keyword.search.cut e.opening).text := by
        rw [Search.text_cut]
        exact he.spanOpening_prefix
      rw [hw.cut_opening_append he, Cut.prefix_first_append htext]
      exact (hw.even_iff he).mp heven
    | start tag _ cut => exact hw.prefix_first_start he heven tag cut hpre
  · -- what is left of an opening tag does not begin with a closing one
    exfalso
    cases hx with
    | @all v _ => exact he.not_closing_prefix v hpre
    | start tag _ _ =>
      refine he.not_closing_prefix [] ?_
      rw [List.append_nil, tag]
      exact hpre.trans (List.prefix_append _ _)

/-- The same of a closing tag, for any word. -/
private theorem Clean.prefix_first_closing {word : List Char} (hword : Markup.Counted word)
    (hw : w.Clean whole) {x : List Char} (hx : Markup.Remains whole Markup.closing x)
    (hpre : word <+: x) : word <+: (w.keyword.search.cut x).first ↔ w.Spares := by
  rcases hword with rfl | rfl
  · -- what is left of a closing tag does not begin with an opening one
    exfalso
    cases hx with
    | @all v _ => exact Markup.not_spanOpening_prefix_closing v hpre
    | start tag _ _ =>
      refine Markup.not_spanOpening_prefix_closing [] ?_
      rw [List.append_nil, tag]
      exact hpre.trans (List.prefix_append _ _)
  · cases hx with
    | @all v _ =>
      have hcut : w.keyword.search.cut (Markup.closing ++ v) =
          (w.keyword.search.cut Markup.closing).append (w.keyword.search.cut v) :=
        hw.avoidsClose.foreign.cut_append_of_last hw.text_ne_nil "</span".toList v
      have htext : Markup.closing <+: (w.keyword.search.cut Markup.closing).text :=
        ⟨[], by rw [Search.text_cut, List.append_nil]⟩
      rw [hcut, Cut.prefix_first_append htext, Spares]
    | start tag _ _ =>
      -- a proper beginning of a closing tag is none
      have := hpre.length_le
      rw [tag, List.length_append, List.length_cons] at this
      omega

/-- Of a tag that a block begins with, an even word breaks what is counted if and only if it breaks
closing tags. -/
theorem Clean.prefix_first_iff {word : List Char} (hword : Markup.Counted word)
    (hw : w.Clean whole) (hws : ∀ e ∈ ws, Markup.IsOpening e.opening) (heven : ∀ e ∈ ws, w.Even e)
    {x : List Char} (hx : Block whole ws x) (hpre : word <+: x) :
    word <+: (w.keyword.search.cut x).first ↔ w.Spares := by
  obtain ⟨t, ⟨e, he, rfl | rfl⟩, hx⟩ := hx
  · exact hw.prefix_first_opening hword (hws e he) (heven e he) hx hpre
  · exact hw.prefix_first_closing hword hx hpre

/-- A word adds as many tags of either kind to a block as it is found in it, and breaks the tag that
the block begins with unless it spares closing tags. -/
theorem Clean.occurrences_block {word : List Char} (hword : Markup.Counted word)
    (hw : w.Clean whole) (hws : ∀ e ∈ ws, Markup.IsOpening e.opening) (heven : ∀ e ∈ ws, w.Even e)
    {r : List Char} (hr : '<' ∉ r) (hx : Block whole ws ('<' :: r)) :
    Markup.occurrences word (w.apply ('<' :: r)) = (w.keyword.search.cut ('<' :: r)).hits.length +
      if w.Spares then Markup.occurrences word ('<' :: r) else 0 := by
  have hfirst := (w.keyword.search.cut ('<' :: r)).first_prefix_text
  rw [Search.text_cut] at hfirst
  rw [hw.occurrences_apply hword hr, Markup.occurrences_cons hword hr, Nat.add_comm]
  congr 1
  by_cases hpre : word <+: '<' :: r
  · simp only [hw.prefix_first_iff hword hws heven hx hpre, hpre, if_true]
  · rw [if_neg fun h => hpre (h.trans hfirst), if_neg hpre, ite_self]

theorem Block.cons (hws : ∀ e ∈ ws, Markup.IsOpening e.opening) {x : List Char}
    (hx : Block whole ws x) : ∃ r, x = '<' :: r ∧ '<' ∉ r := by
  obtain ⟨t, ht, hx⟩ := hx
  obtain ⟨r, rfl, hr⟩ := ht.cons hws
  exact hx.cons hr

/-- A word adds as many opening as closing tags to a text in blocks, and breaks all that are there or
none. -/
theorem Clean.occurrences_blocks (hw : w.Clean whole)
    (hws : ∀ e ∈ ws, Markup.IsOpening e.opening) (heven : ∀ e ∈ ws, w.Even e) {x : List Char}
    (hx : Markup.Blocks (Block whole ws) x) :
    ∃ n, ∀ word, Markup.Counted word → Markup.occurrences word (w.apply x) =
      n + if w.Spares then Markup.occurrences word x else 0 := by
  induction hx with
  | @plain t h =>
    have htext := Search.text_cut w.keyword.search t
    have hbal := Markup.balanced_replace_wrap hw.opening (c := w.keyword.search.cut t) (by rwa [htext])
    refine ⟨Markup.occurrences Markup.spanOpening (w.apply t), fun word hword => ?_⟩
    rw [Markup.occurrences_of_not_mem hword h, ite_self, Nat.add_zero]
    exact hbal.occurrences_eq hword
  | @snoc x b _ block ih =>
    obtain ⟨n, ih⟩ := ih
    obtain ⟨r, rfl, hr⟩ := block.cons hws
    refine ⟨n + (w.keyword.search.cut ('<' :: r)).hits.length, fun word hword => ?_⟩
    rw [hw.occurrences_apply_append hword, ih word hword,
      hw.occurrences_block hword hws heven hr block, Markup.occurrences_append_cons hword]
    split <;> omega

/-- An even word keeps a text in blocks balanced. -/
theorem Clean.balanced_apply (hw : w.Clean whole) (hws : ∀ e ∈ ws, Markup.IsOpening e.opening)
    (heven : ∀ e ∈ ws, w.Even e) {x : List Char} (hx : Markup.Blocks (Block whole ws) x)
    (hbal : Markup.Balanced x) : Markup.Balanced (w.apply x) := by
  obtain ⟨n, hcount⟩ := hw.occurrences_blocks hws heven hx
  rw [Markup.Balanced, hcount _ Markup.counted_spanOpening, hcount _ Markup.counted_closing, hbal]

/-- A text in blocks stays one. -/
theorem Clean.blocks_apply (hw : w.Clean whole) (hws : ∀ e ∈ ws, Markup.IsOpening e.opening)
    {x : List Char} (hx : Markup.Blocks (Block whole ws) x) :
    Markup.Blocks (Block whole (ws ++ [w])) (w.apply x) := by
  have hopen (m : List Char) (hm : '<' ∉ m) : Block whole (ws ++ [w]) (w.opening ++ m) :=
    ⟨w.opening, ⟨w, by simp, .inl rfl⟩, .all hm⟩
  have hclose (v : List Char) (hv : '<' ∉ v) : Block whole (ws ++ [w]) (Markup.closing ++ v) :=
    ⟨Markup.closing, ⟨w, by simp, .inr rfl⟩, .all hv⟩
  induction hx with
  | @plain t h =>
    have hc : '<' ∉ (w.keyword.search.cut t).text := by rwa [Search.text_cut]
    exact Markup.Blocks.append_replace_wrap (y := []) hopen hclose
      (Markup.plainBehind_of_not_mem hc) (.plain (Markup.not_mem_first hc))
  | @snoc x b _ block ih =>
    obtain ⟨r, rfl, hr⟩ := block.cons hws
    obtain ⟨t, ht, hremains⟩ := block
    obtain ⟨t, rfl, htfree⟩ := ht.cons hws
    rw [hw.apply_append_cons]
    refine Markup.Blocks.append_replace_wrap hopen hclose (hw.plainBehind_cut hr) (ih.snoc ?_)
    exact ⟨_, ht.mono (List.subset_append_left ws [w]),
      hremains.first hw.text_ne_nil hw.avoidsOpen htfree hw.whole⟩

/-- Words of which the later ones are even for the earlier ones make a balanced text of a text without
opening brackets. -/
theorem balanced_foldl (hws : ∀ w ∈ ws, w.Clean whole) (heven : ws.Pairwise fun e l => l.Even e)
    {text : List Char} (h : '<' ∉ text) :
    Markup.Blocks (Block whole ws) (ws.foldl (fun t w => w.apply t) text) ∧
      Markup.Balanced (ws.foldl (fun t w => w.apply t) text) := by
  induction ws using List.reverseRecOn with
  | nil => exact ⟨.plain h, Markup.balanced_of_not_mem h⟩
  | append_singleton ws w ih =>
    rw [List.pairwise_append] at heven
    rw [List.forall_mem_append, List.forall_mem_singleton] at hws
    obtain ⟨hblocks, hbal⟩ := ih hws.1 heven.1
    have hopen : ∀ e ∈ ws, Markup.IsOpening e.opening := fun e he => (hws.1 e he).opening
    have hevenw : ∀ e ∈ ws, w.Even e := fun e he => heven.2.2 e he w List.mem_cons_self
    rw [List.foldl_append, List.foldl_cons, List.foldl_nil]
    exact ⟨hws.2.blocks_apply hopen hblocks, hws.2.balanced_apply hopen hevenw hblocks hbal⟩

end WordMarking

/-! ### Rules -/

/-- A pattern rule that puts spans makes a balanced text of a text without opening brackets. -/
theorem Marking.balanced_pattern {n : String} {m : Pattern.Matcher} {r : Replacement}
    (h : (pattern n m r).PutsSpans) {text : List Char} (ht : '<' ∉ text) :
    Markup.Balanced ((pattern n m r).apply text) := by
  obtain ⟨className, rfl, ho⟩ := h
  rw [apply, Replacement.text_wrap]
  exact Markup.balanced_replace_wrap ho (by rwa [Search.text_cut])

/-- A keyword of a rule with word boundaries does not cut words: it is bounded, or begins with a mark
that is no character of words. -/
theorem WordMarking.whole_keywordOf {rule : KeywordRule} (h : rule.wordBoundaries = true)
    (token : Token) : (keywordOf rule token).Whole := by
  have hsentinels (d : Char) (hd : d ∈ sentinels) : Text.IsMark d ∧ Text.isWord d = false := by
    simp only [sentinels, List.mem_cons, List.not_mem_nil, or_false] at hd
    rcases hd with rfl | rfl | rfl
    · exact ⟨by decide, by decide⟩
    · exact ⟨by decide, by decide⟩
    · exact ⟨by decide, by decide⟩
  cases hs : isSentinel token.keyword.toList with
  | false => exact .inl (by simp [keywordOf, h, hs])
  | true =>
    obtain ⟨d, hhead, hd⟩ := (Option.any_eq_true _ _).mp hs
    obtain ⟨later, hlater⟩ := List.head?_eq_some_iff.mp hhead
    exact .inr ⟨d, later, hlater, hsentinels d (List.contains_iff_mem.mp hd)⟩

/-- A word of a rule, if it is neither empty nor has angle brackets. -/
theorem WordMarking.clean_standard {v : Vocabulary} {rule : KeywordRule} {token : Token}
    (hopen : Markup.IsOpening (standard v rule token).opening) (hne : token.keyword ≠ "")
    (hfree : Markup.BracketFree token.keyword.toList) :
    (standard v rule token).Clean (rule.wordBoundaries = true) where
  opening := hopen
  text_ne_nil := fun h => hne (String.toList_eq_nil_iff.mp h)
  bracketFree := hfree
  whole_of_bounded h := by
    simp only [standard, keywordOf, Bool.and_eq_true] at h
    exact h.1
  whole h := whole_keywordOf h token

namespace Highlighter

/-- In each keyword rule, every word is even for the words before it. -/
def WordsEven (h : Highlighter) : Prop :=
  ∀ n ws, Marking.words n ws ∈ h.markings → ws.Pairwise fun e l => l.Even e

/-- Every text between two rules that make balanced texts is balanced. -/
theorem balanced_marked (text : List Char) {markings : List Marking}
    (hputs : ∀ a ∈ markings, a.PutsSpans)
    (hbal : ∀ a ∈ markings, ∀ s, '<' ∉ s → Markup.Balanced (a.apply s)) :
    Markup.Balanced (marked text markings) := by
  induction markings using List.reverseRecOn with
  | nil => exact Markup.balanced_of_not_mem (Markup.bracketFree_escape text).1
  | append_singleton markings a ih =>
    rw [List.forall_mem_append, List.forall_mem_singleton] at hputs hbal
    rw [marked_concat]
    refine Markup.balanced_mapPlain (fun s hs => ⟨?_, hbal.2 s hs⟩) (closed_marked text hputs.1)
      (ih hputs.1 hbal.1)
    exact hputs.2.closed_apply (Markup.closed_of_not_mem hs)

/-- The markup of a text has as many opening as closing tags of spans. -/
theorem balanced_highlight {g : Grammar} {h : Highlighter} (hg : g.SpansOnly)
    (hkeywords : ∀ t ∈ g.tokens, t.keyword ≠ "" ∧ Markup.BracketFree t.keyword.toList)
    (hok : ofVocabulary (.ofGrammar g) = .ok h) (heven : h.WordsEven) (text : List Char) :
    Markup.Balanced (h.highlight text) := by
  have hputs := hg.putsSpans hok
  rw [highlight_eq]
  split
  · exact Markup.balanced_of_not_mem List.not_mem_nil
  refine balanced_marked text hputs fun a ha s hs => ?_
  cases a with
  | words n ws =>
    have hpairs := heven n ws ha
    have hopen := hputs _ ha
    obtain ⟨rule, hrule, rfl⟩ := words_of_mem hok ha
    have hclean : ∀ w ∈ rule.tokens.map (WordMarking.standard (.ofGrammar g) rule),
        w.Clean (rule.wordBoundaries = true) := by
      rw [List.forall_mem_map]
      intro token htoken
      obtain ⟨hne, hfree⟩ := hkeywords token (List.mem_flatMap.mpr ⟨_, hrule, htoken⟩)
      exact WordMarking.clean_standard (hopen _ (List.mem_map_of_mem htoken)) hne hfree
    exact (WordMarking.balanced_foldl hclean hpairs hs).2
  | pattern n m r => exact Marking.balanced_pattern (hputs _ ha) hs

/-- The third word breaks all tags of the first two, of which the second stands in those of the
first. -/
theorem balanced_highlight_sample :
    ∃ h, ofVocabulary (.ofGrammar (.sample ["eq", "class", "span"])) = .ok h ∧ h.WordsEven ∧
      Markup.Balanced (h.highlight "eq class // <".toList) := by
  have hsome : (ofVocabulary (.ofGrammar (.sample ["eq", "class", "span"]))).toOption.any
      (fun _ => true) := by
    decide +kernel
  obtain ⟨h, hok, -⟩ := Results.exists_of_any hsome
  have heven : h.WordsEven := by
    intro n ws ha
    obtain rfl := Grammar.words_of_mem_sample hok ha
    decide +kernel
  have hkeywords : ∀ t ∈ (Grammar.sample ["eq", "class", "span"]).tokens,
      t.keyword ≠ "" ∧ Markup.BracketFree t.keyword.toList := by
    unfold Markup.BracketFree
    decide +kernel
  exact ⟨h, hok, heven, balanced_highlight (Grammar.spansOnly_sample _) hkeywords hok heven _⟩

/-- A word that breaks closing tags, but no opening ones, leaves some markup unbalanced. -/
theorem exists_not_balanced_highlight :
    ∃ (g : Grammar) (h : Highlighter) (text : List Char), g.SpansOnly ∧
      (∀ t ∈ g.tokens, t.keyword ≠ "" ∧ Markup.BracketFree t.keyword.toList) ∧
      ofVocabulary (.ofGrammar g) = .ok h ∧ ¬ Markup.Balanced (h.highlight text) := by
  have hslash : (ofVocabulary (.ofGrammar (.sample ["eq", "/"]))).toOption.any
      (fun h => ¬ Markup.Balanced (h.highlight "eq".toList)) := by
    decide +kernel
  obtain ⟨h, hok, hnot⟩ := Results.exists_of_any hslash
  have hkeywords : ∀ t ∈ (Grammar.sample ["eq", "/"]).tokens,
      t.keyword ≠ "" ∧ Markup.BracketFree t.keyword.toList := by
    unfold Markup.BracketFree
    decide +kernel
  exact ⟨_, h, _, Grammar.spansOnly_sample _, hkeywords, hok, of_decide_eq_true hnot⟩

end Highlighter

end Annotator
