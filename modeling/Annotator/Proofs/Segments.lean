import Mathlib.Data.List.TakeWhile
import Annotator.Markup
import Annotator.Proofs.Cuts

/-!
# Segments of closed texts

A text is *closed* if a tag begins at each of its opening brackets. What follows a closed text cannot
change how it is cut into plain text and tags, so closed texts are cut one by one. The plain segments
of a closed text have no opening bracket, and a closed text stays closed when its plain segments are
changed into closed texts.

## Key results

- `cut_append`: a closed text and any other text are cut one after the other
- `segmented_cut`: the plain segments and the tags of a closed text
- `cut_mapPlain`: the cut of a text whose plain segments have been changed
-/

namespace Annotator.Markup

/-- A text without angle brackets. -/
def BracketFree (text : List Char) : Prop := '<' ∉ text ∧ '>' ∉ text

/-- A tag: something without a closing bracket between angle brackets. -/
def IsTag (text : List Char) : Prop :=
  ∃ inner, inner ≠ [] ∧ '>' ∉ inner ∧ text = '<' :: (inner ++ ['>'])

/-- A text in which every opening bracket has a closing one behind it, but not right behind it. -/
def Closed (text : List Char) : Prop :=
  ∀ rest, '<' :: rest <:+ text → '>' ∈ rest ∧ rest.head? ≠ some '>'

/-! ### Bracket-free texts -/

theorem bracketFree_nil : BracketFree [] := ⟨List.not_mem_nil, List.not_mem_nil⟩

theorem bracketFree_append {a b : List Char} :
    BracketFree (a ++ b) ↔ BracketFree a ∧ BracketFree b := by
  simp only [BracketFree, List.mem_append, not_or]
  constructor
  · intro h
    obtain ⟨⟨ha, hb⟩, ha', hb'⟩ := h
    exact ⟨⟨ha, ha'⟩, hb, hb'⟩
  · intro h
    obtain ⟨⟨ha, ha'⟩, hb, hb'⟩ := h
    exact ⟨⟨ha, hb⟩, ha', hb'⟩

/-! ### Closed texts -/

theorem closed_of_not_mem {text : List Char} (h : '<' ∉ text) : Closed text :=
  fun _ hs => absurd (hs.subset List.mem_cons_self) h

theorem BracketFree.closed {text : List Char} (h : BracketFree text) : Closed text :=
  closed_of_not_mem h.1

theorem Closed.of_suffix {a b : List Char} (h : Closed b) (hs : a <:+ b) : Closed a :=
  fun rest hr => h rest (hr.trans hs)

/-- A suffix of `a ++ b` that is not one of `b` ends in `b`. -/
theorem suffix_append_cases {s a b : List Char} (h : s <:+ a ++ b) :
    s <:+ b ∨ ∃ r, r ≠ [] ∧ r <:+ a ∧ s = r ++ b := by
  obtain ⟨t, ht⟩ := h
  rcases List.append_eq_append_iff.mp ht with ⟨r, rfl, rfl⟩ | ⟨r, rfl, rfl⟩
  · cases r with
    | nil => exact .inl ⟨[], by simp⟩
    | cons c r => exact .inr ⟨c :: r, List.cons_ne_nil c r, ⟨t, rfl⟩, rfl⟩
  · exact .inl ⟨r, rfl⟩

theorem Closed.append {a b : List Char} (ha : Closed a) (hb : Closed b) : Closed (a ++ b) := by
  intro rest hs
  -- an opening bracket of `b`, or one of `a`, whose closing bracket is in `a`, too
  rcases suffix_append_cases hs with hs | ⟨r, hr, hsuf, heq⟩
  · exact hb rest hs
  · obtain ⟨c, r, rfl⟩ := List.exists_cons_of_ne_nil hr
    obtain ⟨rfl, rfl⟩ : '<' = c ∧ rest = r ++ b := by simpa using heq
    have ⟨hmem, hhead⟩ := ha r hsuf
    cases r with
    | nil => simp at hmem
    | cons d r => exact ⟨List.mem_append_left b hmem, by simpa using hhead⟩

/-- The end of a closed text may be exchanged for a closed text that begins with a tag. -/
theorem Closed.exchange {a b c : List Char} (hab : Closed (a ++ b)) (hc : Closed c)
    (hhead : c.head? = some '<') : Closed (a ++ c) := by
  obtain ⟨later, rfl⟩ : ∃ later, c = '<' :: later := by
    cases c with
    | nil => simp at hhead
    | cons d later => exact ⟨later, by simpa using hhead⟩
  intro rest hs
  rcases suffix_append_cases hs with hs | ⟨r, hr, hsuf, heq⟩
  · exact hc rest hs
  · obtain ⟨d, r, rfl⟩ := List.exists_cons_of_ne_nil hr
    obtain ⟨rfl, rfl⟩ : '<' = d ∧ rest = r ++ '<' :: later := by simpa using heq
    -- a tag that began in `a` and ended in `b` now ends with the first tag of `c`
    refine ⟨?_, ?_⟩
    · have hmem := (hc later (List.suffix_refl _)).1
      exact List.mem_append_right r (List.mem_cons_of_mem _ hmem)
    · cases r with
      | nil => simp
      | cons e r =>
        obtain ⟨t, rfl⟩ := hsuf
        have hsuf' : '<' :: (e :: r ++ b) <:+ t ++ '<' :: e :: r ++ b := ⟨t, by simp⟩
        simpa using (hab _ hsuf').2

/-- What follows an opening bracket of a closed text makes a tag with it. -/
theorem Closed.exists_tag {rest : List Char} (h : Closed ('<' :: rest)) :
    ∃ inner after, inner ≠ [] ∧ '>' ∉ inner ∧ rest = inner ++ '>' :: after := by
  have ⟨hmem, hhead⟩ := h rest (List.suffix_refl _)
  obtain ⟨inner, after, rfl, hinner⟩ := List.eq_append_cons_of_mem hmem
  refine ⟨inner, after, ?_, hinner, rfl⟩
  intro heq
  subst heq
  simp at hhead

/-- A beginning of a closed text that ends with a closing bracket is closed. -/
theorem Closed.of_prefix {a b : List Char} (h : Closed (a ++ '>' :: b)) :
    Closed (a ++ ['>']) := by
  rintro rest ⟨t, ht⟩
  rcases List.eq_nil_or_concat rest with rfl | ⟨rest, c, rfl⟩
  · have := congrArg List.getLast? ht
    simp at this
  · rw [List.concat_eq_append] at ht ⊢
    obtain rfl : c = '>' := by
      have hsnoc : (t ++ '<' :: rest) ++ [c] = a ++ ['>'] := by simpa using ht
      simpa using (List.append_inj' hsnoc rfl).2
    have hsuf : '<' :: (rest ++ '>' :: b) <:+ a ++ '>' :: b := by
      refine ⟨t, ?_⟩
      have := congrArg (· ++ b) ht
      simpa using this
    have ⟨_, hhead⟩ := h _ hsuf
    refine ⟨by simp, ?_⟩
    cases rest with
    | nil => simp at hhead
    | cons d rest => simpa using hhead

/-! ### Finding tags -/

theorem takeWhile_inner {inner after : List Char} (h : '>' ∉ inner) :
    (inner ++ '>' :: after).takeWhile (· != '>') = inner := by
  have hall : ∀ c ∈ inner, (c != '>') = true := by
    intro c hc
    simpa using ne_of_mem_of_not_mem hc h
  rw [List.takeWhile_append_of_pos hall]
  simp

theorem tagFront_of_ne {c : Char} (h : c ≠ '<') (prev : Option Char) (text : List Char) :
    tagFront prev (c :: text) = none := by
  unfold tagFront
  split
  · rename_i heq
    simp only [List.cons.injEq] at heq
    exact absurd heq.1 h
  · rfl

theorem tagFront_tag (prev : Option Char) {inner : List Char} (after : List Char)
    (hne : inner ≠ []) (h : '>' ∉ inner) :
    tagFront prev ('<' :: (inner ++ '>' :: after)) = some (inner.length + 2) := by
  have hlen : inner.length ≠ 0 := by simpa using hne
  simp [tagFront, takeWhile_inner h, hne]

/-- What is found as a tag at the front of a text ends at its first closing bracket. -/
theorem exists_of_tagFront {prev : Option Char} {text : List Char} {n : Nat}
    (h : tagFront prev text = some n) :
    ∃ inner after, inner ≠ [] ∧ '>' ∉ inner ∧ text = '<' :: (inner ++ '>' :: after) ∧
      n = inner.length + 2 := by
  unfold tagFront at h
  split at h
  · rename_i later
    simp only at h
    split at h
    · cases h
    · rename_i hlen
      by_cases hmem : '>' ∈ later
      · obtain ⟨inner, after, rfl, hinner⟩ := List.eq_append_cons_of_mem hmem
        rw [takeWhile_inner hinner, not_or] at hlen
        rw [takeWhile_inner hinner] at h
        have hne : inner ≠ [] := mt List.length_eq_zero_iff.mpr hlen.1
        exact ⟨inner, after, hne, hinner, rfl, (Option.some.inj h).symm⟩
      · -- without a closing bracket everything would lie inside
        have hall : ∀ c ∈ later, (c != '>') = true := by
          intro c hc
          simpa using ne_of_mem_of_not_mem hc hmem
        rw [List.takeWhile_eq_self_iff.mpr hall] at hlen
        simp at hlen
  · cases h

theorem tagFront_proper : Search.Proper tagFront := by
  have key {prev : Option Char} {text : List Char} {n : Nat} (h : tagFront prev text = some n) :
      0 < n ∧ n ≤ text.length := by
    unfold tagFront at h
    split at h
    · rename_i later
      simp only at h
      split at h
      · simp at h
      · rename_i hlen
        have hle := (List.takeWhile_prefix (· != '>') (l := later)).length_le
        simp only [Option.some.injEq] at h
        simp only [not_or] at hlen
        rw [List.length_cons]
        omega
    · simp at h
  exact ⟨fun h => (key h).1, fun h => (key h).2⟩

/-- A tag that begins in a closed text ends in it. -/
private theorem tagFront_append {text : List Char} (h : Closed text) (hne : text ≠ [])
    (prev : Option Char) (b : List Char) : tagFront prev (text ++ b) = tagFront prev text := by
  obtain ⟨c, text, rfl⟩ := List.exists_cons_of_ne_nil hne
  by_cases hc : c = '<'
  · subst hc
    obtain ⟨inner, after, hi, hinner, rfl⟩ := h.exists_tag
    have happ : '<' :: (inner ++ '>' :: after) ++ b = '<' :: (inner ++ '>' :: (after ++ b)) := by
      simp
    rw [happ, tagFront_tag prev _ hi hinner, tagFront_tag prev _ hi hinner]
  · rw [List.cons_append, tagFront_of_ne hc, tagFront_of_ne hc]

/-- A closed text and any other text are cut one after the other. -/
theorem cut_append {a : List Char} (h : Closed a) (b : List Char) :
    tag.cut (a ++ b) = (tag.cut a).append (tag.cut b) := by
  rw [tag, Search.cut_ofFront, Search.cut_ofFront, Search.cut_ofFront,
    Search.scan_append tagFront_proper none b fun p rest hne hs =>
      tagFront_append (h.of_suffix hs) hne p b]
  congr 1
  exact Search.scan_prev tagFront_proper rfl

theorem cut_of_not_mem {text : List Char} (h : '<' ∉ text) : tag.cut text = .rest text := by
  refine Search.scan_of_forall_none tagFront_proper none fun p rest hne hs => ?_
  obtain ⟨c, rest, rfl⟩ := List.exists_cons_of_ne_nil hne
  refine tagFront_of_ne ?_ p rest
  intro heq
  subst heq
  exact h (hs.subset List.mem_cons_self)

theorem IsTag.cut {text : List Char} (h : IsTag text) : tag.cut text = .hit [] text [] (.rest []) := by
  obtain ⟨inner, hne, hinner, rfl⟩ := h
  have hfront := tagFront_tag none [] hne hinner
  rw [tag, Search.cut_ofFront, Search.scan_of_some tagFront_proper hfront]
  have hlen : inner.length + 2 = ('<' :: (inner ++ ['>'])).length := by simp
  rw [hlen, List.take_length, List.drop_length, Search.scan_nil tagFront_proper]

/-- A tag without a further opening bracket is closed. -/
theorem IsTag.closed {text : List Char} (h : IsTag text) (hopen : '<' ∉ text.tail) :
    Closed text := by
  obtain ⟨inner, hne, hinner, rfl⟩ := h
  intro rest hs
  rcases List.suffix_cons_iff.mp hs with heq | hs
  · obtain rfl : rest = inner ++ ['>'] := by simpa using heq
    refine ⟨by simp, ?_⟩
    obtain ⟨c, inner, rfl⟩ := List.exists_cons_of_ne_nil hne
    have hc : c ≠ '>' := fun hc => hinner (hc ▸ List.mem_cons_self)
    simpa using hc
  · exact absurd (hs.subset List.mem_cons_self) hopen

theorem IsTag.isTag {text : List Char} (h : IsTag text) : isTag text = true := by
  obtain ⟨inner, _, _, rfl⟩ := h
  rfl

theorem isTag_of_not_mem {text : List Char} (h : '<' ∉ text) : isTag text = false := by
  cases text with
  | nil => rfl
  | cons c text =>
    have hc : c ≠ '<' := by
      intro heq
      subst heq
      exact h List.mem_cons_self
    simpa [isTag] using hc

theorem IsTag.getLast?_eq {text : List Char} (h : IsTag text) : text.getLast? = some '>' := by
  obtain ⟨inner, _, _, rfl⟩ := h
  rw [← List.cons_append, List.getLast?_concat]

/-! ### The tags of a text, and the text without them -/

/-- The tags of a text, in order. -/
def tags (text : List Char) : List (List Char) := (tag.cut text).hits

/-- A text without its tags. -/
def shown (text : List Char) : List Char := (tag.cut text).plain

/-- The tags of a text are tags. -/
theorem isTag_of_mem_tags {text m : List Char} (h : m ∈ tags text) : IsTag m := by
  obtain ⟨p, rest, n, hn, rfl⟩ := Search.exists_of_mem_hits_cutFrom h
  obtain ⟨inner, after, hne, hinner, rfl, rfl⟩ := exists_of_tagFront hn
  exact ⟨inner, hne, hinner, by simp [List.take_append, List.take_of_length_le]⟩

theorem tags_append {a : List Char} (h : Closed a) (b : List Char) :
    tags (a ++ b) = tags a ++ tags b := by
  rw [tags, cut_append h, Cut.hits_append]; rfl

theorem shown_append {a : List Char} (h : Closed a) (b : List Char) :
    shown (a ++ b) = shown a ++ shown b := by
  rw [shown, cut_append h, Cut.plain_append]; rfl

theorem tags_of_not_mem {text : List Char} (h : '<' ∉ text) : tags text = [] := by
  rw [tags, cut_of_not_mem h]; rfl

theorem shown_of_not_mem {text : List Char} (h : '<' ∉ text) : shown text = text := by
  rw [shown, cut_of_not_mem h, Cut.plain_rest]

theorem IsTag.tags {text : List Char} (h : IsTag text) : tags text = [text] := by
  rw [Markup.tags, h.cut]; rfl

theorem IsTag.shown {text : List Char} (h : IsTag text) : shown text = [] := by
  rw [Markup.shown, h.cut]; rfl

/-! ### The segments of a closed text -/

/-- A cut into texts without opening brackets and closed tags, by turns. -/
inductive Segmented : Cut → Prop
  | rest {t : List Char} (plain : '<' ∉ t) : Segmented (.rest t)
  | hit {b m : List Char} {a : Cut} (plain : '<' ∉ b) (tag : IsTag m) (closed : Closed m)
      (later : Segmented a) : Segmented (.hit b m [] a)

/-- The cut of a closed text. -/
theorem segmented_cut {text : List Char} (h : Closed text) : Segmented (tag.cut text) := by
  rw [tag, Search.cut_ofFront]
  -- along the cut, after whatever character it is resumed
  generalize (none : Option Char) = prev
  induction prev, text using Search.scan_induction tagFront_proper with
  | nil prev =>
    rw [Search.scan_nil tagFront_proper]
    exact .rest List.not_mem_nil
  | hit prev text n hn ih =>
    have ih := ih (h.of_suffix (List.drop_suffix n text))
    rw [Search.scan_of_some tagFront_proper hn]
    obtain ⟨c, text, rfl⟩ : ∃ c later, text = c :: later := by
      cases text with
      | nil => simp [tagFront] at hn
      | cons c later => exact ⟨c, later, rfl⟩
    obtain rfl : c = '<' := by
      refine Decidable.byContradiction fun hc => ?_
      rw [tagFront_of_ne hc] at hn
      simp at hn
    -- the hit is the tag that the text, which is closed, begins with
    obtain ⟨inner, after, hi, hinner, rfl⟩ := h.exists_tag
    obtain rfl : inner.length + 2 = n := by
      simpa [tagFront_tag prev after hi hinner] using hn
    have htake : ('<' :: (inner ++ '>' :: after)).take (inner.length + 2) =
        '<' :: (inner ++ ['>']) := by
      simp [List.take_append, List.take_of_length_le]
    rw [htake] at ih ⊢
    have hclosed : Closed ('<' :: inner ++ ['>']) := Closed.of_prefix (b := after) (by simpa using h)
    exact .hit List.not_mem_nil ⟨inner, hi, hinner, rfl⟩ (by simpa using hclosed) ih
  | step prev c text hn ih =>
    have ih := ih (h.of_suffix (List.suffix_cons c text))
    rw [Search.scan_of_none tagFront_proper hn]
    -- a plain character of a closed text is no opening bracket, which would begin a tag
    have hc : '<' ≠ c := by
      intro heq
      subst heq
      obtain ⟨inner, after, hi, hinner, rfl⟩ := h.exists_tag
      simp [tagFront_tag prev after hi hinner] at hn
    generalize Search.scan tagFront (some c) text = later at ih
    cases ih with
    | rest plain => exact .rest (by simp [hc, plain])
    | hit plain tag closed later => exact .hit (by simp [hc, plain]) tag closed later

/-! ### Changing plain segments -/

/-- A cut whose plain segments are changed by `f` and cut again, but for those in comments; `was`
tells whether a comment is open. -/
def mapCut (f : List Char → List Char) (was : Bool) : Cut → Cut
  | .rest t => if was then .rest t else tag.cut (f t)
  | .hit b m g a =>
    (if was then .rest b else tag.cut (f b)).append (.hit [] m g (mapCut f (commentAfter was m) a))

theorem commentAfter_of_not_mem {text : List Char} (h : '<' ∉ text) (was : Bool) :
    commentAfter was text = was := by
  simp [commentAfter, isTag_of_not_mem h]

/-- What becomes of a plain segment is closed and cut again. -/
private theorem changed_segment {f : List Char → List Char}
    (hf : ∀ s, '<' ∉ s → Closed (f s)) (was : Bool) {b : List Char} (hb : '<' ∉ b) :
    Closed (if isTag b || was then b else f b) ∧
      tag.cut (if isTag b || was then b else f b) = if was then .rest b else tag.cut (f b) := by
  rw [isTag_of_not_mem hb, Bool.false_or]
  cases was with
  | true => exact ⟨closed_of_not_mem hb, cut_of_not_mem hb⟩
  | false => exact ⟨hf b hb, rfl⟩

/-- Changing plain segments into closed texts makes a closed text, which is cut segment by segment. -/
theorem cut_mapSegments {f : List Char → List Char} (hf : ∀ s, '<' ∉ s → Closed (f s)) {c : Cut}
    (hc : Segmented c) (was : Bool) :
    Closed (mapSegments f was c.segments) ∧
      tag.cut (mapSegments f was c.segments) = mapCut f was c := by
  induction hc generalizing was with
  | @rest t plain =>
    obtain ⟨hclosed, hcut⟩ := changed_segment hf was plain
    simpa only [Cut.segments, mapSegments, mapCut, List.append_nil] using And.intro hclosed hcut
  | @hit b m a plain htag closed _ ih =>
    obtain ⟨hclosed, hcut⟩ := changed_segment hf was plain
    obtain ⟨ihclosed, ihcut⟩ := ih (commentAfter was m)
    simp only [Cut.segments, mapSegments, htag.isTag, Bool.true_or, if_true,
      commentAfter_of_not_mem plain]
    refine ⟨hclosed.append (closed.append ihclosed), ?_⟩
    rw [cut_append hclosed, cut_append closed, hcut, ihcut, htag.cut, mapCut]
    simp [Cut.append]

/-- The cut of a closed text after its plain segments have been changed into closed texts. -/
theorem cut_mapPlain {f : List Char → List Char} (hf : ∀ s, '<' ∉ s → Closed (f s))
    {text : List Char} (h : Closed text) :
    Closed (mapPlain f text) ∧ tag.cut (mapPlain f text) = mapCut f false (tag.cut text) :=
  cut_mapSegments hf (segmented_cut h) false

/-! ### Exchanging plain segments -/

/-- `Rewritten R c x` if `x` is the text of the cut `c` with each of its plain segments exchanged
for one that is related to it by `R`. -/
inductive Rewritten (R : List Char → List Char → Prop) : Cut → List Char → Prop
  | rest {t t' : List Char} (h : R t t') : Rewritten R (.rest t) t'
  | hit {b b' m x : List Char} {g : List (Option (List Char))} {a : Cut} (h : R b b')
      (later : Rewritten R a x) : Rewritten R (.hit b m g a) (b' ++ (m ++ x))

theorem Rewritten.mono {R S : List Char → List Char → Prop} (hRS : ∀ b b', R b b' → S b b')
    {c : Cut} {x : List Char} (h : Rewritten R c x) : Rewritten S c x := by
  induction h with
  | rest h => exact .rest (hRS _ _ h)
  | hit h _ ih => exact .hit (hRS _ _ h) ih

theorem rewritten_mapSegments {R : List Char → List Char → Prop} {f : List Char → List Char}
    (hid : ∀ b, R b b) (hf : ∀ b, R b (f b)) {c : Cut} (hc : Segmented c) (was : Bool) :
    Rewritten R c (mapSegments f was c.segments) := by
  have key (b : List Char) (was : Bool) : R b (if isTag b || was then b else f b) := by
    split
    · exact hid b
    · exact hf b
  induction hc generalizing was with
  | @rest t _ =>
    rw [Cut.segments, mapSegments, mapSegments, List.append_nil]
    exact .rest (key t was)
  | @hit b m a _ htag _ _ ih =>
    simp only [Cut.segments, mapSegments, htag.isTag, Bool.true_or, if_true]
    exact .hit (key b was) (ih _)

end Annotator.Markup
