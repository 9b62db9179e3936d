import Annotator.Proofs.Respacing

/-!
# Phrases

An operator of several words is a *phrase*: words with single spaces between them. In a text there may be
more blanks between them, and collapsing makes the phrase of it. So what stands in a collapsed text stood
in the text, as something that collapses to it (`exists_of_collapse`).

If a phrase between spaces overlaps something that collapses to a spelling of a phrase, then one of the
phrases has the other in it, or ends with the words that the other one begins with. Phrases that are clear
of each other do neither, so they cannot overlap unless they are the same.

## Key results

- `collapse_append`: parts with no blanks between them are collapsed one by one
- `exists_of_collapse`, `exists_of_breaks`: where the parts of a tidied text come from
- `eq_of_overlap`: clear phrases do not overlap
-/

namespace Annotator.Spacing

open Text (isBlank isWord foldEq wordBoundary)

/-! ### Parts of a collapsed text -/

private theorem ne_of_not_blank {c : Char} (hc : isBlank c = false) : c ≠ ' ' ∧ c ≠ '\t' := by
  constructor
  · rintro rfl
    exact absurd hc (by decide)
  · rintro rfl
    exact absurd hc (by decide)

/-- A character that is neither space nor tab ends a run. -/
theorem collapseFrom_append_cons (was : Bool) {c : Char} (hspace : c ≠ ' ') (htab : c ≠ '\t')
    (x y : List Char) : collapseFrom was (x ++ c :: y) = collapseFrom was x ++ c :: collapse y := by
  induction x generalizing was with
  | nil => simp [collapseFrom, collapse, hspace, htab]
  | cons d x ih =>
    rw [List.cons_append, collapseFrom, collapseFrom, ih true, ih false]
    split
    · split <;> rfl
    · rfl

theorem collapse_cons {c : Char} (hspace : c ≠ ' ') (htab : c ≠ '\t') (y : List Char) :
    collapse (c :: y) = c :: collapse y := collapseFrom_append_cons false hspace htab [] y

/-- Parts with no blanks between them are collapsed one by one. -/
theorem collapse_append {x y : List Char}
    (h : (∀ c ∈ x.getLast?, isBlank c = false) ∨ ∀ c ∈ y.head?, isBlank c = false) :
    collapse (x ++ y) = collapse x ++ collapse y := by
  rcases h with h | h
  · rcases List.eq_nil_or_concat x with rfl | ⟨x, c, rfl⟩
    · rfl
    · obtain ⟨hspace, htab⟩ := ne_of_not_blank (h c (by simp))
      have hpart (y : List Char) : collapse (x ++ c :: y) = collapse x ++ c :: collapse y :=
        collapseFrom_append_cons false hspace htab x y
      rw [List.concat_eq_append, List.append_assoc, List.singleton_append, hpart, hpart,
        List.append_assoc]
      rfl
  · cases y with
    | nil => exact (congrArg collapse (List.append_nil x)).trans (List.append_nil _).symm
    | cons c y =>
      obtain ⟨hspace, htab⟩ := ne_of_not_blank (h c rfl)
      rw [collapse_cons hspace htab]
      exact collapseFrom_append_cons false hspace htab x y

theorem collapse_eq_nil {x : List Char} (h : collapse x = []) : x = [] := by
  cases x with
  | nil => rfl
  | cons c x =>
    rw [collapse, collapseFrom] at h
    split at h
    · cases h
    · cases h

/-- What collapses to a text without blanks at its ends begins and ends like it. -/
theorem ends_of_collapse {m : List Char} (h : IsEdged (collapse m)) :
    m.head? = (collapse m).head? ∧ m.getLast? = (collapse m).getLast? :=
  ⟨(reblanked_collapse m).head?_eq h.head, (reblanked_collapse m).getLast?_eq h.last⟩

theorem edged_of_collapse {m : List Char} (h : IsEdged (collapse m)) : IsEdged m where
  ne_nil := by
    rintro rfl
    exact h.ne_nil rfl
  head := by
    rw [(ends_of_collapse h).1]
    exact h.head
  last := by
    rw [(ends_of_collapse h).2]
    exact h.last

/-- A character of a collapsed text that is no space has its place in the text. -/
private theorem exists_of_collapse_cons {was : Bool} {v a r : List Char} {c : Char} (hc : c ≠ ' ')
    (h : collapseFrom was v = a ++ c :: r) :
    ∃ a' r', v = a' ++ c :: r' ∧ collapseFrom was a' = a ∧ collapse r' = r := by
  induction v generalizing was a with
  | nil => exact absurd h.symm (by simp [collapseFrom])
  | cons d v ih =>
    -- whatever becomes of `d`, the rest of the text has the character
    have hlater {was' : Bool} {b : List Char} (hb : collapseFrom was' v = b ++ c :: r)
        (hd : ∀ a', collapseFrom was' a' = b → collapseFrom was (d :: a') = a) :
        ∃ a' r', d :: v = a' ++ c :: r' ∧ collapseFrom was a' = a ∧ collapse r' = r := by
      obtain ⟨a', r', rfl, ha, hr⟩ := ih hb
      exact ⟨d :: a', r', rfl, hd a' ha, hr⟩
    rw [collapseFrom] at h
    split at h
    · rename_i hd
      split at h
      · rename_i hwas
        exact hlater h fun a' ha => by rw [collapseFrom, if_pos hd, if_pos hwas, ha]
      · rename_i hwas
        cases a with
        | nil => exact absurd (List.cons.inj h).1.symm hc
        | cons e a =>
          obtain ⟨rfl, hv⟩ := List.cons.inj h
          exact hlater hv fun a' ha => by rw [collapseFrom, if_pos hd, if_neg hwas, ha]
    · rename_i hd
      cases a with
      | nil =>
        obtain ⟨rfl, hv⟩ := List.cons.inj h
        exact ⟨[], v, rfl, rfl, hv⟩
      | cons e a =>
        obtain ⟨rfl, hv⟩ := List.cons.inj h
        exact hlater hv fun a' ha => by rw [collapseFrom, if_neg hd, ha]

/-- A part of a collapsed text is what some part of the text collapses to. -/
theorem exists_of_collapse {v a m r : List Char} (hm : IsEdged m) (h : collapse v = a ++ (m ++ r)) :
    ∃ a' m' r', v = a' ++ (m' ++ r') ∧ collapse a' = a ∧ collapse m' = m ∧ collapse r' = r := by
  -- the last character first, and then the first one, if it is another
  obtain ⟨m, d, rfl⟩ := (List.eq_nil_or_concat m).resolve_left hm.ne_nil
  rw [List.concat_eq_append] at h hm ⊢
  obtain ⟨hspace, htab⟩ := ne_of_not_blank (hm.last d (by simp))
  rw [List.append_assoc, List.singleton_append, ← List.append_assoc] at h
  obtain ⟨s, r', rfl, hs, hr⟩ := exists_of_collapse_cons hspace h
  have hlast (x : List Char) : collapse (x ++ [d]) = collapse x ++ [d] :=
    collapseFrom_append_cons false hspace htab x []
  cases m with
  | nil =>
    rw [List.append_nil] at hs
    exact ⟨s, [d], r', rfl, hs, hlast [], hr⟩
  | cons c m =>
    obtain ⟨hspace, htab⟩ := ne_of_not_blank (hm.head c rfl)
    obtain ⟨a', b, rfl, ha, hb⟩ := exists_of_collapse_cons hspace hs
    refine ⟨a', c :: (b ++ [d]), r', by simp, ha, ?_, hr⟩
    rw [collapse_cons hspace htab, hlast, hb, List.cons_append]

/-- A character of a text with one kind of line break has its place in the text, if it is none. -/
private theorem exists_of_breaks_cons {v a r : List Char} {c : Char} (hc : c ≠ '\n')
    (h : breaks v = a ++ c :: r) : ∃ a' r', v = a' ++ c :: r' ∧ breaks a' = a ∧ breaks r' = r := by
  induction v using breaks.induct generalizing a with
  | case1 => exact absurd h.symm (by simp [breaks])
  | case2 later ih =>
    cases a with
    | nil => exact absurd (List.cons.inj h).1.symm hc
    | cons e a =>
      obtain ⟨rfl, hlater⟩ := List.cons.inj h
      obtain ⟨a', r', rfl, rfl, hr⟩ := ih hlater
      exact ⟨'\r' :: '\n' :: a', r', rfl, rfl, hr⟩
  | case3 d later hnot ih =>
    rw [breaks.eq_3 d later hnot] at h
    cases a with
    | nil =>
      obtain ⟨hd, hlater⟩ := List.cons.inj h
      split at hd
      · exact absurd hd.symm hc
      · exact ⟨[], later, by rw [hd]; rfl, rfl, hlater⟩
    | cons e a =>
      obtain ⟨hd, hlater⟩ := List.cons.inj h
      obtain ⟨a', r', rfl, rfl, hr⟩ := ih hlater
      have hnot' : ∀ l, d = '\r' → a' = '\n' :: l → False := by
        rintro l rfl rfl
        exact hnot _ rfl rfl
      exact ⟨d :: a', r', rfl, by rw [breaks.eq_3 d a' hnot', hd], hr⟩

/-- A part without line breaks has its place in the text. -/
theorem exists_of_breaks {v a m r : List Char} (hne : m ≠ []) (hm : '\n' ∉ m)
    (h : breaks v = a ++ (m ++ r)) :
    ∃ a' r', v = a' ++ (m ++ r') ∧ breaks a' = a ∧ breaks r' = r := by
  induction m generalizing v a with
  | nil => exact absurd rfl hne
  | cons c m ih =>
    rw [List.mem_cons, not_or] at hm
    obtain ⟨a', s, rfl, ha, hs⟩ := exists_of_breaks_cons (Ne.symm hm.1) h
    cases m with
    | nil => exact ⟨a', s, rfl, ha, hs⟩
    | cons d m =>
      -- nothing comes between two of its characters
      obtain ⟨b, r', rfl, hb, hr⟩ := ih (a := []) (List.cons_ne_nil d m) hm.2 hs
      have hnil : b = [] := by
        unfold breaks at hb
        split at hb
        · rfl
        · cases hb
        · cases hb
      subst hnil
      exact ⟨a', r', rfl, ha, hr⟩

/-! ### Phrases -/

/-- Words with single spaces between them. -/
structure IsPhrase (word : List Char) : Prop where
  ne_nil : word ≠ []
  chars : ∀ c ∈ word, isWord c = true ∨ c = ' '
  head : word.head? ≠ some ' '
  last : word.getLast? ≠ some ' '
  single : ¬ [' ', ' '] <:+: word

instance (word : List Char) : Decidable (IsPhrase word) :=
  decidable_of_iff (word ≠ [] ∧ (word.all fun c => isWord c || c == ' ') = true ∧
      word.head? ≠ some ' ' ∧ word.getLast? ≠ some ' ' ∧ ¬ [' ', ' '] <:+: word) <| by
    simp only [List.all_eq_true, Bool.or_eq_true, beq_iff_eq]
    exact ⟨fun ⟨hne, hchars, hhead, hlast, hsingle⟩ => ⟨hne, hchars, hhead, hlast, hsingle⟩,
      fun h => ⟨h.ne_nil, h.chars, h.head, h.last, h.single⟩⟩

/-- One phrase is a part of another, up to case. -/
def Contained (a b : List Char) : Prop := a.map Char.toLower <:+: b.map Char.toLower

instance (a b : List Char) : Decidable (Contained a b) :=
  inferInstanceAs (Decidable (_ <:+: _))

/-- One phrase ends with some words that another one begins with, up to case. -/
def Meets (a b : List Char) : Prop :=
  ∃ z, ' ' :: z <:+ a.map Char.toLower ∧ z ++ [' '] <+: b.map Char.toLower

instance (a b : List Char) : Decidable (Meets a b) :=
  decidable_of_iff (∃ z ∈ (a.map Char.toLower).tails,
      ' ' :: z <:+ a.map Char.toLower ∧ z ++ [' '] <+: b.map Char.toLower) <| by
    constructor
    · rintro ⟨z, -, h⟩
      exact ⟨z, h⟩
    · rintro ⟨z, hsuffix, hprefix⟩
      exact ⟨z, (List.mem_tails z _).mpr ((List.suffix_cons ' ' z).trans hsuffix), hsuffix, hprefix⟩

namespace IsPhrase

variable {word : List Char}

theorem isWord_of_ne (h : IsPhrase word) {c : Char} (hc : c ∈ word) (hne : c ≠ ' ') :
    isWord c = true := (h.chars c hc).resolve_right hne

theorem ascii (h : IsPhrase word) : ∀ c ∈ word, c.toNat < 128 := by
  intro c hc
  rcases h.chars c hc with hword | rfl
  · exact toNat_lt_of_isWord hword
  · decide

/-- The only blanks of a phrase are spaces. -/
theorem eq_space (h : IsPhrase word) {c : Char} (hc : c ∈ word) (hblank : isBlank c = true) :
    c = ' ' := by
  refine (h.chars c hc).resolve_left fun hword => ?_
  rw [isWord_eq_false_of_isBlank hblank] at hword
  cases hword

theorem edged (h : IsPhrase word) : IsEdged word where
  ne_nil := h.ne_nil
  head c hc := by
    rw [Bool.eq_false_iff]
    exact fun hblank => h.head (h.eq_space (List.mem_of_head? hc) hblank ▸ hc)
  last c hc := by
    rw [Bool.eq_false_iff]
    exact fun hblank => h.last (h.eq_space (List.mem_of_getLast? hc) hblank ▸ hc)

/-- No part of a phrase is changed by collapsing. -/
theorem collapse_part (h : IsPhrase word) {part : List Char} (hpart : part <:+: word) :
    collapse part = part := by
  refine collapse_eq_self (fun htab => ?_) fun hspaces => h.single (hspaces.trans hpart)
  exact absurd (h.eq_space (hpart.subset htab) (by decide)) (by decide)

end IsPhrase

/-! ### Phrases that are clear of each other -/

/-- Different phrases are no parts of each other, and no phrase meets another one, or itself. -/
structure Clear (a b : List Char) : Prop where
  parts : a ≠ b → ¬ Contained a b ∧ ¬ Contained b a
  meets : ¬ Meets a b ∧ ¬ Meets b a

instance (a b : List Char) : Decidable (Clear a b) :=
  decidable_of_iff ((a ≠ b → ¬ Contained a b ∧ ¬ Contained b a) ∧ ¬ Meets a b ∧ ¬ Meets b a)
    ⟨fun ⟨hparts, hmeets⟩ => ⟨hparts, hmeets⟩, fun h => ⟨h.parts, h.meets⟩⟩

section Overlap

variable {word p m q z t : List Char}

/-- Nothing but the phrase itself is found in it. -/
private theorem eq_of_inside (hw : IsPhrase word) (ht : IsPhrase (p ++ (m ++ q)))
    (hclear : Clear word (p ++ (m ++ q))) (h : Spelled word (collapse m)) :
    word = p ++ (m ++ q) ∧ p = [] ∧ q = [] := by
  have hpart : m <:+: p ++ (m ++ q) := ⟨p, q, List.append_assoc p m q⟩
  rw [ht.collapse_part hpart] at h
  have hlower := h.map_toLower hw.ascii fun c hc => ht.ascii c (hpart.subset hc)
  have hword : word = p ++ (m ++ q) := by
    by_contra hne
    refine (hclear.parts hne).1 ?_
    rw [Contained, hlower]
    exact hpart.map Char.toLower
  -- the phrase is as long as any spelling of it
  have hlen := h.length_eq
  rw [hword] at hlen
  simp only [List.length_append] at hlen
  exact ⟨hword, List.length_eq_zero_iff.mp (by omega), List.length_eq_zero_iff.mp (by omega)⟩

/-- The phrase is found in nothing but itself. -/
private theorem eq_of_around (hw : IsPhrase word) (ht : IsPhrase t) (hclear : Clear word t)
    (h : Spelled word (collapse (p ++ (t ++ q)))) : word = t ∧ p = [] ∧ q = [] := by
  have hhead : ∀ c ∈ (t ++ q).head?, isBlank c = false := by
    rw [List.head?_append_of_ne_nil t ht.ne_nil]
    exact ht.edged.head
  rw [collapse_append (.inr hhead), collapse_append (.inl ht.edged.last),
    ht.collapse_part (List.infix_refl t)] at h
  obtain ⟨u, s, hword, -, hs⟩ := h.exists_of_append_right
  obtain ⟨v, w, rfl, hv, -⟩ := hs.exists_of_append_right
  have hascii := hw.ascii
  rw [hword, List.forall_mem_append, List.forall_mem_append] at hascii
  have heq : word = t := by
    by_contra hne
    refine (hclear.parts hne).2 ?_
    rw [Contained, ← hv.map_toLower hascii.2.1 ht.ascii, hword]
    exact List.IsInfix.map Char.toLower ⟨u, w, List.append_assoc u v w⟩
  have hlen := h.length_eq
  rw [heq] at hlen
  simp only [List.length_append] at hlen
  exact ⟨heq, collapse_eq_nil (List.length_eq_zero_iff.mp (by omega)),
    collapse_eq_nil (List.length_eq_zero_iff.mp (by omega))⟩

/-- In front of a word character, a phrase has a space where a word begins. -/
private theorem eq_space_of_wordBoundary (hw : IsPhrase word) {c d : Char} (hc : c ∈ word)
    (hd : isWord d = true) (h : wordBoundary (some c) (some d) = true) : c = ' ' := by
  have hnot := (wordBoundary_iff_of_isWord (y := some d) hd).mp h
  refine (hw.chars c hc).resolve_left fun hword => ?_
  rw [Option.any_some, hword] at hnot
  cases hnot

/-- What ends with a space collapses to something that ends with a blank. -/
private theorem exists_blank_last (hp : p.getLast? = some ' ') :
    ∃ c ∈ (collapse p).getLast?, isBlank c = true := by
  obtain ⟨c, hc⟩ : ∃ c, (collapse p).getLast? = some c := by
    refine Option.ne_none_iff_exists'.mp fun hnone => ?_
    rw [collapse_eq_nil (List.getLast?_eq_none_iff.mp hnone)] at hp
    cases hp
  refine ⟨c, hc, ?_⟩
  by_contra hnot
  have heq := (reblanked_collapse p).getLast?_eq (fun d hd => ?_)
  · rw [hp, hc] at heq
    exact hnot (Option.some.inj heq ▸ by decide)
  · rw [hc] at hd
    exact Option.some.inj hd ▸ Bool.eq_false_iff.mpr hnot

/-- If the end of what collapses to a spelling is the beginning of a phrase, and a space is in front of
the phrase, then phrases meet. -/
private theorem meets_of_left (hw : IsPhrase word) (ht : IsPhrase (z ++ q))
    (hp : p.getLast? = some ' ') (hz : z ≠ []) (hq : q ≠ [])
    (h : Spelled word (collapse (p ++ z)))
    (hright : wordBoundary (collapse (p ++ z)).getLast? q.head? = true) : Meets word (z ++ q) := by
  have hhead : ∀ c ∈ z.head?, isBlank c = false := by
    have := ht.edged.head
    rwa [List.head?_append_of_ne_nil z hz] at this
  have hlast := (h.edged hw.edged).last
  rw [collapse_append (.inr hhead), ht.collapse_part (List.infix_append' [] z q)] at h hright hlast
  rw [List.getLast?_append_of_ne_nil _ hz] at hright hlast
  obtain ⟨v, w, rfl, hv, hw'⟩ := h.exists_of_append_right
  -- in the word, the space in front of the phrase is a space
  have hspace : v.getLast? = some ' ' := by
    obtain ⟨c, hc, hblank⟩ := exists_blank_last hp
    obtain ⟨a, ha, hac⟩ := hv.exists_of_last hc
    rw [← Text.isBlank_eq_of_foldEq hac] at hblank
    rw [ha, hw.eq_space (List.mem_append_left w (List.mem_of_getLast? ha)) hblank]
  obtain ⟨v, rfl⟩ := List.getLast?_eq_some_iff.mp hspace
  -- in the phrase, a space follows where the spelling ends
  obtain ⟨d, q, rfl⟩ := List.exists_cons_of_ne_nil hq
  obtain ⟨e, he⟩ := Option.ne_none_iff_exists'.mp (mt List.getLast?_eq_none_iff.mp hz)
  have hword : isWord e = true := by
    refine ht.isWord_of_ne (List.mem_append_left _ (List.mem_of_getLast? he)) ?_
    rintro rfl
    exact absurd (hlast ' ' he) (by decide)
  rw [he, List.head?_cons, Text.wordBoundary_comm] at hright
  obtain rfl := eq_space_of_wordBoundary ht (List.mem_append_right z List.mem_cons_self) hword hright
  have hascii := hw.ascii
  have hascii' := ht.ascii
  rw [List.forall_mem_append] at hascii hascii'
  have hlower := hw'.map_toLower hascii.2 hascii'.1
  refine ⟨z.map Char.toLower, ⟨v.map Char.toLower, ?_⟩, ⟨q.map Char.toLower, ?_⟩⟩
  · simp [← hlower]
  · simp

/-- If the beginning of what collapses to a spelling is the end of a phrase, and a space is behind the
phrase, then phrases meet. -/
private theorem meets_of_right (hw : IsPhrase word) (ht : IsPhrase (p ++ z))
    (hq : q.head? = some ' ') (hp : p ≠ []) (hz : z ≠ []) (h : Spelled word (collapse (z ++ q)))
    (hleft : wordBoundary p.getLast? (collapse (z ++ q)).head? = true) : Meets (p ++ z) word := by
  have hlast : ∀ c ∈ z.getLast?, isBlank c = false := by
    have := ht.edged.last
    rwa [List.getLast?_append_of_ne_nil p hz] at this
  have hhead := (h.edged hw.edged).head
  rw [collapse_append (.inl hlast), ht.collapse_part (List.suffix_append p z).isInfix]
    at h hleft hhead
  rw [List.head?_append_of_ne_nil z hz] at hleft hhead
  obtain ⟨w, v, rfl, hw', hv⟩ := h.exists_of_append_right
  have hspace : v.head? = some ' ' := by
    obtain ⟨q, rfl⟩ : ∃ l, q = ' ' :: l := ⟨q.tail, List.eq_cons_of_mem_head? hq⟩
    have hv : Spelled v (' ' :: collapseFrom true q) := hv
    obtain ⟨a, ha, hac⟩ := hv.exists_of_head rfl
    have hblank : isBlank a = true := by
      rw [Text.isBlank_eq_of_foldEq hac]
      decide
    rw [ha, hw.eq_space (List.mem_append_right w (List.mem_of_head? ha)) hblank]
  obtain ⟨v, rfl⟩ : ∃ l, v = ' ' :: l := ⟨v.tail, List.eq_cons_of_mem_head? hspace⟩
  obtain ⟨p, d, rfl⟩ := (List.eq_nil_or_concat p).resolve_left hp
  rw [List.concat_eq_append] at ht hleft ⊢
  obtain ⟨e, z, rfl⟩ := List.exists_cons_of_ne_nil hz
  have hword : isWord e = true := by
    refine ht.isWord_of_ne (List.mem_append_right _ List.mem_cons_self) ?_
    rintro rfl
    exact absurd (hhead ' ' rfl) (by decide)
  rw [List.getLast?_concat, List.head?_cons] at hleft
  obtain rfl := eq_space_of_wordBoundary ht (by simp) hword hleft
  have hascii := hw.ascii
  have hascii' := ht.ascii
  rw [List.forall_mem_append] at hascii hascii'
  have hlower := hw'.map_toLower hascii.1 hascii'.2
  refine ⟨(e :: z).map Char.toLower, ⟨p.map Char.toLower, ?_⟩, ⟨v.map Char.toLower, ?_⟩⟩
  · simp
  · simp [← hlower]

end Overlap

/-- What collapses to a spelling of a phrase overlaps a phrase between spaces that is clear of it only
if it is that phrase. -/
theorem eq_of_overlap {word x t y a m r : List Char} (hw : IsPhrase word) (ht : IsPhrase t)
    (hclear : Clear word t) (hx : x.getLast? = some ' ') (hy : y.head? = some ' ')
    (h : Overlap x t y a m r) (hstands : Stands word a (collapse m) r) :
    word = t ∧ m = t ∧ a = x ∧ r = y := by
  obtain ⟨hspelled, hleft, hright⟩ := hstands
  cases h with
  | inside htm ha hr =>
    subst htm ha hr
    obtain ⟨hword, rfl, rfl⟩ := eq_of_inside hw ht hclear hspelled
    refine ⟨hword, ?_, ?_, ?_⟩ <;> simp
  | around hm hx hy =>
    subst hm hx hy
    obtain ⟨hword, rfl, rfl⟩ := eq_of_around hw ht hclear hspelled
    refine ⟨hword, ?_, ?_, ?_⟩ <;> simp
  | left hp hz hq hm htz hx' hr =>
    subst hm htz hx' hr
    rw [List.getLast?_append_of_ne_nil _ hp] at hx
    rw [List.head?_append_of_ne_nil _ hq] at hright
    exact absurd (meets_of_left hw ht hx hz hq hspelled hright) hclear.meets.1
  | right hp hz hq htz hm ha hy' =>
    subst hm htz ha hy'
    rw [List.head?_append_of_ne_nil _ hq] at hy
    rw [List.getLast?_append_of_ne_nil _ hp] at hleft
    exact absurd (meets_of_right hw ht hy hp hz hspelled hleft) hclear.meets.2

end Annotator.Spacing
