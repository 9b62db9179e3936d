import Annotator.Proofs.CaseMaps
import Annotator.Proofs.Segments
import Annotator.Proofs.Spans

/-!
# Texts that differ in case

The search for a keyword whose letters have no case does not see the case of a text, nor does the search
for tags. So they cut two texts that differ in nothing but the case of ASCII letters at the same places.

What is put around a hit is the same for both texts, but tags are compared letter by letter, and a
keyword may find something in a tag that another keyword of its rule has put. What carries over from
rule to rule is that the texts are the same between every opening bracket and the closing bracket after
it. That is what `lowerOutside` says: it is the text with small letters outside brackets, and two texts
are alike if theirs are the same. A span that is put in the middle of a tag ends with a closing bracket,
so what comes behind it counts as outside, and there less is asked for.

## Key results

- `Search.Blind.cutFrom`: a search that does not see a change of characters makes the same cuts
- `Markup.lowerOutside_replace_wrap`: spans around the same hits keep texts alike
- `Markup.lowerOutside_mapPlain`: so does a change of the plain segments of alike texts
- `Highlighter.highlight_case_congr`: markup does not depend on case, and its tags not at all
-/

namespace Annotator

/-! ### Searches that do not see a change of characters -/

/-- A cut with its pieces changed character by character. -/
def Cut.map (f : Char → Char) : Cut → Cut
  | .rest t => .rest (t.map f)
  | .hit b m g a => .hit (b.map f) (m.map f) g (a.map f)

namespace Search

variable {f : Char → Char}

/-- A search that finds the same when the characters of a text are changed. -/
def Blind (f : Char → Char) (s : Search) : Prop :=
  ∀ prev text, s (prev.map f) (text.map f) = s prev text

theorem lastOf_map (f : Char → Char) (prev : Option Char) (part : List Char) :
    lastOf (prev.map f) (part.map f) = (lastOf prev part).map f := by
  rw [lastOf, lastOf, List.getLast?_map, Option.map_or]

theorem blind_ofFront {front : Option Char → List Char → Option Nat}
    (h : ∀ prev text, front (prev.map f) (text.map f) = front prev text) :
    Blind f (ofFront front) := by
  have hleftmost (prev : Option Char) (text : List Char) :
      leftmost front (prev.map f) (text.map f) = leftmost front prev text := by
    induction text generalizing prev with
    | nil => rw [List.map_nil, leftmost, leftmost, ← h prev [], List.map_nil]
    | cons c later ih =>
      have hfirst := h prev (c :: later)
      rw [List.map_cons] at hfirst
      rw [List.map_cons, leftmost, leftmost, hfirst, ← ih, Option.map_some]
  intro prev text
  rw [ofFront, hleftmost, ofFront]

namespace Blind

variable {s : Search}

theorem next (h : Blind f s) (fresh : Bool) (prev : Option Char) (text : List Char) :
    s.next fresh (prev.map f) (text.map f) = s.next fresh prev text := by
  rw [Search.next.eq_def, Search.next.eq_def, h]
  cases s prev text with
  | none => rfl
  | some hit =>
    cases text with
    | nil => rfl
    | cons c later =>
      have hlater := h (some c) later
      rw [Option.map_some] at hlater
      simp only [List.map_cons, hlater]

/-- A search that does not see a change cuts the changed text where it cuts the text. -/
theorem cutFrom (h : Blind f s) (fresh : Bool) (prev : Option Char) (text : List Char) :
    s.cutFrom fresh (prev.map f) (text.map f) = (s.cutFrom fresh prev text).map f := by
  fun_induction Search.cutFrom s fresh prev text with
  | case1 fresh prev text hnone =>
    rw [Search.cutFrom, h.next, hnone]
    rfl
  | case2 fresh prev text hit hnext consumed left progress ih =>
    rw [Search.cutFrom, h.next, hnext]
    simp only [← List.map_take, ← List.map_drop, List.length_map, lastOf_map]
    rw [if_pos progress, Cut.map, ← ih]
  | case3 fresh prev text hit hnext left stuck =>
    rw [Search.cutFrom, h.next, hnext]
    simp only [← List.map_drop, List.length_map]
    rw [if_neg stuck]
    rfl

theorem cut (h : Blind f s) (text : List Char) : s.cut (text.map f) = (s.cut text).map f :=
  h.cutFrom true none text

/-- Texts that differ only by the change are cut at the same places. -/
theorem cut_congr (h : Blind f s) {text text' : List Char} (ht : text.map f = text'.map f) :
    (s.cut text).map f = (s.cut text').map f := by
  rw [← h.cut, ← h.cut, ht]

end Blind

end Search

/-! ### Small letters -/

namespace Keyword

variable {k : Keyword}

/-- A word without case is stripped from a text in small letters as it is from the text. -/
theorem strip_map_toLower (hk : k.exact = false) (word text : List Char) :
    strip k.sameChar word (text.map Char.toLower) =
      (strip k.sameChar word text).map (List.map Char.toLower) := by
  have hsame (a b : Char) : k.sameChar a b.toLower = k.sameChar a b := by
    simp [sameChar, hk, Text.foldEq_toLower]
  induction word generalizing text with
  | nil => rfl
  | cons a word ih =>
    cases text with
    | nil => rfl
    | cons b text =>
      rw [List.map_cons, strip, strip, hsame, ih]
      split
      · rfl
      · rfl

/-- A keyword without case does not see the case of a text. -/
theorem blind_search (hk : k.exact = false) : Search.Blind Char.toLower k.search := by
  refine Search.blind_ofFront fun prev text => ?_
  rw [front, front, strip_map_toLower hk]
  cases strip k.sameChar k.text text with
  | none => rfl
  | some rest =>
    -- what stands on either side of the word is a letter whatever its case
    simp only [Option.map_some, ← List.map_take, Search.lastOf_map, List.head?_map,
      Text.wordBoundary_toLower]

end Keyword

namespace Markup

theorem blind_tag : Search.Blind Char.toLower tag := by
  refine Search.blind_ofFront fun prev text => ?_
  cases text with
  | nil => rfl
  | cons c later =>
    by_cases hc : c = '<'
    · subst hc
      have hinner : ((fun c => c != '>') ∘ Char.toLower) = fun c => c != '>' := by
        funext c
        have := Text.toLower_eq_mark_iff (c := c) (d := '>') (by decide)
        rw [Function.comp, Bool.eq_iff_iff, bne_iff_ne, bne_iff_ne, Ne, this]
      have hopen : '<'.toLower = '<' := by decide
      simp only [List.map_cons, hopen, tagFront, List.takeWhile_map, hinner, List.length_map]
    · have hlower : c.toLower ≠ '<' := mt (Text.toLower_eq_mark_iff (by decide)).mp hc
      rw [List.map_cons, tagFront_of_ne hlower, tagFront_of_ne hc]

/-! ### Small letters outside brackets -/

/-- Whether a bracket is open after a character, when `was` tells it of the place before. -/
def bracketAfter (was : Bool) (c : Char) : Bool := c == '<' || (was && c != '>')

/-- A text with small letters outside brackets; `was` tells whether a bracket is open. -/
def lowerOutside (was : Bool) : List Char → List Char
  | [] => []
  | c :: later => (if was then c else c.toLower) :: lowerOutside (bracketAfter was c) later

example : lowerOutside false "A<B>C".toList = "a<B>c".toList := by decide

theorem bracketAfter_toLower (was : Bool) (c : Char) :
    bracketAfter was c.toLower = bracketAfter was c := by
  have hopen : (c.toLower == '<') = (c == '<') := by
    rw [Bool.eq_iff_iff, beq_iff_eq, beq_iff_eq, Text.toLower_eq_mark_iff (by decide)]
  have hclose : (c.toLower == '>') = (c == '>') := by
    rw [Bool.eq_iff_iff, beq_iff_eq, beq_iff_eq, Text.toLower_eq_mark_iff (by decide)]
  rw [bracketAfter, bracketAfter, bne, bne, hopen, hclose]

section Outside

variable {was : Bool} {a b a' b' : List Char}

theorem lowerOutside_append (was : Bool) (a b : List Char) :
    lowerOutside was (a ++ b) = lowerOutside was a ++ lowerOutside (a.foldl bracketAfter was) b := by
  induction a generalizing was with
  | nil => rfl
  | cons c a ih => rw [List.cons_append, lowerOutside, lowerOutside, ih, List.foldl_cons, List.cons_append]

theorem map_toLower_lowerOutside (was : Bool) (text : List Char) :
    (lowerOutside was text).map Char.toLower = text.map Char.toLower := by
  induction text generalizing was with
  | nil => rfl
  | cons c later ih =>
    rw [lowerOutside, List.map_cons, List.map_cons, ih]
    cases was with
    | true => rfl
    | false => rw [if_neg Bool.false_ne_true, Text.toLower_toLower]

/-- Alike texts differ only in case. -/
theorem map_toLower_of_lowerOutside (h : lowerOutside was a = lowerOutside was a') :
    a.map Char.toLower = a'.map Char.toLower := by
  rw [← map_toLower_lowerOutside was, h, map_toLower_lowerOutside]

/-- The case of a text does not matter to its brackets. -/
theorem foldl_bracketAfter_congr (h : a.map Char.toLower = a'.map Char.toLower) (was : Bool) :
    a.foldl bracketAfter was = a'.foldl bracketAfter was := by
  have hlower (text : List Char) :
      (text.map Char.toLower).foldl bracketAfter was = text.foldl bracketAfter was := by
    rw [List.foldl_map]
    simp only [bracketAfter_toLower]
  rw [← hlower, h, hlower]

/-- Small letters where no bracket is open are small letters again where fewer are open: if a bracket
that is open in the second pass is open in the first, the first pass changes nothing for the second. -/
theorem lowerOutside_lowerOutside {was was' : Bool} (himp : was' = true → was = true)
    (text : List Char) : lowerOutside was' (lowerOutside was text) = lowerOutside was' text := by
  induction text generalizing was was' with
  | nil => rfl
  | cons c later ih =>
    have hnext : bracketAfter was' (if was then c else c.toLower) = bracketAfter was' c := by
      split
      · rfl
      · exact bracketAfter_toLower was' c
    -- the next character keeps one pass behind the other
    have hlater : bracketAfter was' c = true → bracketAfter was c = true := by
      simp only [bracketAfter, Bool.or_eq_true, Bool.and_eq_true]
      exact Or.imp_right (And.imp_left himp)
    rw [lowerOutside, lowerOutside, lowerOutside, hnext, ih hlater]
    congr 1
    cases was' with
    | true => rw [if_pos rfl, himp rfl, if_pos rfl]
    | false =>
      cases was with
      | true => rfl
      | false => exact Text.toLower_toLower c

/-- Texts that are alike within brackets are alike outside. -/
theorem lowerOutside_false (h : lowerOutside was a = lowerOutside was a') :
    lowerOutside false a = lowerOutside false a' := by
  have hagain (text : List Char) :
      lowerOutside false (lowerOutside was text) = lowerOutside false text :=
    lowerOutside_lowerOutside Bool.noConfusion text
  rw [← hagain, h, hagain]

/-- Parts of alike texts are alike if they differ only in case. -/
theorem lowerOutside_append_inj (ha : a.map Char.toLower = a'.map Char.toLower)
    (h : lowerOutside was (a ++ b) = lowerOutside was (a' ++ b')) :
    lowerOutside was a = lowerOutside was a' ∧
      lowerOutside (a.foldl bracketAfter was) b = lowerOutside (a.foldl bracketAfter was) b' := by
  have hlen (text : List Char) :
      (lowerOutside was text).length = (text.map Char.toLower).length := by
    rw [← map_toLower_lowerOutside was text, List.length_map]
  rw [lowerOutside_append, lowerOutside_append] at h
  obtain ⟨hfront, hback⟩ := List.append_inj h (by rw [hlen, hlen, ha])
  refine ⟨hfront, ?_⟩
  rw [hback, foldl_bracketAfter_congr ha]

/-- Texts that are alike one after the other are alike. -/
theorem lowerOutside_append_congr (h : lowerOutside was a = lowerOutside was a')
    (h' : lowerOutside (a.foldl bracketAfter was) b = lowerOutside (a.foldl bracketAfter was) b') :
    lowerOutside was (a ++ b) = lowerOutside was (a' ++ b') := by
  rw [lowerOutside_append, lowerOutside_append, h, h',
    foldl_bracketAfter_congr (map_toLower_of_lowerOutside h)]

/-- After a closing bracket no bracket is open. -/
theorem foldl_bracketAfter_of_last (h : a.getLast? = some '>') (was : Bool) :
    a.foldl bracketAfter was = false := by
  obtain ⟨a, rfl⟩ := List.getLast?_eq_some_iff.mp h
  rw [List.foldl_append, List.foldl_cons, List.foldl_nil]
  simp [bracketAfter]

/-- Where a bracket is open, alike texts are the same as long as it is not closed. -/
theorem exists_of_lowerOutside_true {x text : List Char} (ha : '>' ∉ a)
    (h : lowerOutside true (a ++ x) = lowerOutside true text) :
    ∃ y, text = a ++ y ∧ lowerOutside true x = lowerOutside true y := by
  induction a generalizing text with
  | nil => exact ⟨_, rfl, h⟩
  | cons c a ih =>
    rw [List.mem_cons, not_or] at ha
    cases text with
    | nil => cases h
    | cons d text =>
      have hnext : bracketAfter true c = true := by simp [bracketAfter, Ne.symm ha.1]
      rw [List.cons_append, lowerOutside, lowerOutside, if_pos rfl, if_pos rfl] at h
      obtain ⟨rfl, h⟩ := List.cons.inj h
      rw [hnext] at h
      obtain ⟨y, rfl, hy⟩ := ih ha.2 h
      exact ⟨y, rfl, hy⟩

/-- Behind an opening bracket, alike texts are the same up to the first closing one. -/
theorem exists_of_lowerOutside_open {x text : List Char} (ha : '>' ∉ a)
    (h : lowerOutside was ('<' :: (a ++ x)) = lowerOutside was text) :
    ∃ y, text = '<' :: (a ++ y) ∧ lowerOutside true x = lowerOutside true y := by
  cases text with
  | nil => cases h
  | cons d text =>
    obtain ⟨hd, h⟩ := List.cons.inj h
    obtain rfl : d = '<' := by
      cases was with
      | true => exact hd.symm
      | false => exact (Text.toLower_eq_mark_iff (by decide)).mp hd.symm
    obtain ⟨y, rfl, hy⟩ := exists_of_lowerOutside_true ha h
    exact ⟨y, rfl, hy⟩

/-- A tag is like no text but itself. -/
theorem IsTag.eq_of_lowerOutside (ha : IsTag a) (h : lowerOutside was a = lowerOutside was a') :
    a' = a := by
  obtain ⟨inner, _, hinner, rfl⟩ := ha
  obtain ⟨y, rfl, hy⟩ := exists_of_lowerOutside_open hinner h
  cases y with
  | nil => cases hy
  | cons c y =>
    obtain ⟨rfl, hy⟩ := List.cons.inj hy
    cases y with
    | nil => rfl
    | cons d y => cases hy

theorem lowerOutside_of_not_mem (h : '<' ∉ a) : lowerOutside false a = a.map Char.toLower := by
  induction a with
  | nil => rfl
  | cons c a ih =>
    rw [List.mem_cons, not_or] at h
    have hnext : bracketAfter false c = false := by
      simp [bracketAfter, Ne.symm h.1]
    rw [lowerOutside, hnext, ih h.2]
    rfl

end Outside

/-! ### Putting spans -/

/-- Spans around the same hits keep texts alike. -/
theorem lowerOutside_replace_wrap {opening : List Char} (ho : opening.getLast? = some '>') {c c' : Cut}
    (hcut : c.map Char.toLower = c'.map Char.toLower) (was : Bool)
    (h : lowerOutside was c.text = lowerOutside was c'.text) :
    lowerOutside was (c.replace fun m _ => wrap opening m) =
      lowerOutside was (c'.replace fun m _ => wrap opening m) := by
  induction c generalizing c' was with
  | rest t =>
    cases c' with
    | rest t' => exact h
    | hit _ _ _ _ => cases hcut
  | hit b m g a ih =>
    cases c' with
    | rest _ => cases hcut
    | hit b' m' g' a' =>
      obtain ⟨hb, hm, -, ha⟩ := Cut.hit.inj hcut
      rw [Cut.text_hit, Cut.text_hit, List.append_assoc, List.append_assoc] at h
      obtain ⟨hbefore, h⟩ := lowerOutside_append_inj hb h
      obtain ⟨hmatched, hafter⟩ := lowerOutside_append_inj hm h
      -- behind either tag of the span no bracket is open
      have hlater := ih ha false (lowerOutside_false hafter)
      have hclosing : closing.getLast? = some '>' := by decide
      rw [Cut.replace, Cut.replace, wrap, wrap]
      simp only [List.append_assoc]
      refine lowerOutside_append_congr hbefore (lowerOutside_append_congr rfl ?_)
      rw [foldl_bracketAfter_of_last ho]
      refine lowerOutside_append_congr (lowerOutside_false hmatched) (lowerOutside_append_congr rfl ?_)
      rw [foldl_bracketAfter_of_last hclosing]
      exact hlater

/-! ### Changing plain segments -/

section Segments

variable {a b : List Char} {f : List Char → List Char}

theorem isTag_congr (h : lowerOutside false a = lowerOutside false b) : isTag a = isTag b := by
  cases a with
  | nil =>
    cases b with
    | nil => rfl
    | cons d b => cases h
  | cons c a =>
    cases b with
    | nil => cases h
    | cons d b =>
      have hlower : c.toLower = d.toLower := (List.cons.inj h).1
      have hopen (e : Char) : e.toLower = '<' ↔ e = '<' := Text.toLower_eq_mark_iff (by decide)
      rw [isTag, isTag, Bool.eq_iff_iff, beq_iff_eq, beq_iff_eq, List.head?_cons, List.head?_cons,
        Option.some_inj, Option.some_inj, ← hopen c, ← hopen d, hlower]

/-- Whether a comment is open after a segment does not depend on case. -/
theorem commentAfter_congr (h : lowerOutside false a = lowerOutside false b) (was : Bool) :
    commentAfter was a = commentAfter was b := by
  have hclosing : (a == closing) = (b == closing) := by
    rw [Bool.eq_iff_iff, beq_iff_eq, beq_iff_eq]
    constructor
    · rintro rfl
      exact isTag_closing.eq_of_lowerOutside h
    · rintro rfl
      exact isTag_closing.eq_of_lowerOutside h.symm
  have hbegins {a b : List Char} (h : lowerOutside false a = lowerOutside false b)
      (ha : commentOpening <+: a) : commentOpening <+: b := by
    have hnot : '>' ∉ commentOpening.tail := by decide
    obtain ⟨x, rfl⟩ := ha
    obtain ⟨y, rfl, _⟩ := exists_of_lowerOutside_open hnot h
    exact List.prefix_append commentOpening y
  have hopening : commentOpening.isPrefixOf a = commentOpening.isPrefixOf b := by
    rw [Bool.eq_iff_iff, List.isPrefixOf_iff_prefix, List.isPrefixOf_iff_prefix]
    exact ⟨hbegins h, hbegins h.symm⟩
  rw [commentAfter, commentAfter, isTag_congr h, hclosing, hopening]

/-- Cuts into the same tags, with alike texts between them. -/
inductive Alike : Cut → Cut → Prop
  | rest {t t' : List Char} (plain : lowerOutside false t = lowerOutside false t') :
      Alike (.rest t) (.rest t')
  | hit {b b' m : List Char} {g g' : List (Option (List Char))} {c c' : Cut}
      (plain : lowerOutside false b = lowerOutside false b') (tag : IsTag m) (later : Alike c c') :
      Alike (.hit b m g c) (.hit b' m g' c')

/-- Alike texts that are cut into tags at the same places. -/
theorem alike_of_map {c c' : Cut} (htags : ∀ m ∈ c.hits, IsTag m)
    (hcut : c.map Char.toLower = c'.map Char.toLower)
    (h : lowerOutside false c.text = lowerOutside false c'.text) : Alike c c' := by
  induction c generalizing c' with
  | rest t =>
    cases c' with
    | rest t' => exact .rest h
    | hit _ _ _ _ => cases hcut
  | hit b m g c ih =>
    cases c' with
    | rest _ => cases hcut
    | hit b' m' g' c' =>
      obtain ⟨hm, hrest⟩ := List.forall_mem_cons.mp htags
      obtain ⟨hb, hm', -, hlater⟩ := Cut.hit.inj hcut
      rw [Cut.text_hit, Cut.text_hit, List.append_assoc, List.append_assoc] at h
      obtain ⟨hplain, h⟩ := lowerOutside_append_inj hb h
      obtain ⟨htag, hafter⟩ := lowerOutside_append_inj hm' h
      -- behind the tag no bracket is open
      obtain rfl := hm.eq_of_lowerOutside htag
      rw [foldl_bracketAfter_of_last hm.getLast?_eq] at hafter
      exact .hit hplain hm (ih hrest hlater hafter)

/-- Alike texts have the same tags, with alike texts between them. -/
theorem alike_cut (h : lowerOutside false a = lowerOutside false b) :
    Alike (tag.cut a) (tag.cut b) := by
  refine alike_of_map (fun m hm => isTag_of_mem_tags hm)
    (blind_tag.cut_congr (map_toLower_of_lowerOutside h)) ?_
  rwa [Search.text_cut, Search.text_cut]

/-- Changing the plain segments of alike texts in a way that keeps texts alike. -/
theorem lowerOutside_mapPlain
    (hf : ∀ {a b}, lowerOutside false a = lowerOutside false b →
      lowerOutside false (f a) = lowerOutside false (f b))
    (h : lowerOutside false a = lowerOutside false b) :
    lowerOutside false (mapPlain f a) = lowerOutside false (mapPlain f b) := by
  have hsegment {a b : List Char} (h : lowerOutside false a = lowerOutside false b) (was : Bool) :
      lowerOutside false (if isTag a || was then a else f a) =
        lowerOutside false (if isTag b || was then b else f b) := by
    rw [isTag_congr h]
    split
    · exact h
    · exact hf h
  -- along the cuts, whether a comment is open or not
  have hcut : ∀ {c c' : Cut}, Alike c c' → ∀ was,
      lowerOutside false (mapSegments f was c.segments) =
        lowerOutside false (mapSegments f was c'.segments) := by
    intro c c' hc
    induction hc with
    | rest plain =>
      intro was
      simp only [Cut.segments, mapSegments, List.append_nil]
      exact hsegment plain was
    | hit plain htag _ ih =>
      intro was
      simp only [Cut.segments, mapSegments, htag.isTag, Bool.true_or, if_true,
        commentAfter_congr plain was]
      refine lowerOutside_append_congr (hsegment plain was) (lowerOutside_append_congr rfl ?_)
      rw [foldl_bracketAfter_of_last htag.getLast?_eq]
      exact ih _
  exact hcut (alike_cut h) false

end Segments

end Markup

/-! ### Tags in their places -/

/-- The hits of a cut, each with the place where it begins if the text begins at `start`. -/
def Cut.placed (start : Nat) : Cut → List (Nat × List Char)
  | .rest _ => []
  | .hit b m _ a => (start + b.length, m) :: a.placed (start + b.length + m.length)

namespace Markup

/-- The tags of a text, each with the place where it begins. -/
def placedTags (text : List Char) : List (Nat × List Char) := (tag.cut text).placed 0

example : placedTags "a<b>c</b>".toList = [(1, "<b>".toList), (5, "</b>".toList)] := by
  decide +kernel

theorem length_eq_of_lowerOutside {was : Bool} {a b : List Char}
    (h : lowerOutside was a = lowerOutside was b) : a.length = b.length := by
  have := congrArg List.length (map_toLower_of_lowerOutside h)
  rwa [List.length_map, List.length_map] at this

/-- Alike texts have the same tags in the same places. -/
theorem placedTags_congr {a b : List Char} (h : lowerOutside false a = lowerOutside false b) :
    placedTags a = placedTags b := by
  have hcut : ∀ {c c' : Cut}, Alike c c' → ∀ start, c.placed start = c'.placed start := by
    intro c c' hc
    induction hc with
    | rest _ => exact fun _ => rfl
    | hit plain _ _ ih =>
      intro start
      rw [Cut.placed, Cut.placed, length_eq_of_lowerOutside plain, ih]
  exact hcut (alike_cut h) 0

theorem escape_map_toLower (text : List Char) :
    escape (text.map Char.toLower) = (escape text).map Char.toLower := by
  have hchar (c : Char) : escapeChar c.toLower = (escapeChar c).map Char.toLower := by
    refine Text.toLower_of_ascii (P := fun c d => d = c.toLower →
      escapeChar d = (escapeChar c).map Char.toLower) (fun c hc => ?_) (by decide +kernel) c rfl
    unfold escapeChar
    split
    · decide
    · decide
    · decide
    · decide
    · rw [List.map_singleton, ← hc]
  induction text with
  | nil => rfl
  | cons c later ih =>
    rw [escape] at ih ⊢
    rw [List.map_cons, List.flatMap_cons, ih, hchar, ← List.map_append]
    rfl

/-- Texts that differ only in case are alike once they are escaped. -/
theorem lowerOutside_escape {a b : List Char} (h : a.map Char.toLower = b.map Char.toLower) :
    lowerOutside false (escape a) = lowerOutside false (escape b) := by
  rw [lowerOutside_of_not_mem (bracketFree_escape a).1, lowerOutside_of_not_mem (bracketFree_escape b).1,
    ← escape_map_toLower, ← escape_map_toLower, h]

end Markup

/-! ### Rules without case -/

/-- A keyword rule without case, or a rule that annotates nothing. -/
def Rule.IgnoresCase : Rule → Prop
  | keyword r => r.caseSensitive = false
  | pattern _ => False
  | other _ => True

instance (r : Rule) : Decidable r.IgnoresCase :=
  match r with
  | .keyword r => inferInstanceAs (Decidable (r.caseSensitive = false))
  | .pattern _ => .isFalse id
  | .other _ => .isTrue trivial

/-- Putting a word without case in spans keeps texts alike. -/
theorem WordMarking.lowerOutside_apply {w : WordMarking} (hw : w.keyword.exact = false)
    {a b : List Char} (h : Markup.lowerOutside false a = Markup.lowerOutside false b) :
    Markup.lowerOutside false (w.apply a) = Markup.lowerOutside false (w.apply b) := by
  have hlast : w.opening.getLast? = some '>' := by
    rw [opening, String.toList_append, List.getLast?_append_of_ne_nil _ (by decide)]
    decide
  rw [apply_eq, apply_eq]
  refine Markup.lowerOutside_replace_wrap hlast
    ((Keyword.blind_search hw).cut_congr (Markup.map_toLower_of_lowerOutside h)) false ?_
  rwa [Search.text_cut, Search.text_cut]

/-- Putting words without case in spans, one after the other, keeps texts alike. -/
theorem Marking.lowerOutside_apply_words {n : String} {ws : List WordMarking}
    (hws : ∀ w ∈ ws, w.keyword.exact = false) {a b : List Char}
    (h : Markup.lowerOutside false a = Markup.lowerOutside false b) :
    Markup.lowerOutside false ((words n ws).apply a) =
      Markup.lowerOutside false ((words n ws).apply b) := by
  rw [apply, apply]
  induction ws generalizing a b with
  | nil => exact h
  | cons w ws ih =>
    obtain ⟨hw, hws⟩ := List.forall_mem_cons.mp hws
    exact ih hws (WordMarking.lowerOutside_apply hw h)

namespace Highlighter

variable {g : Grammar} {h : Highlighter}

/-- The rules of a grammar whose rules have no case mark words without case. -/
theorem exists_words_of_ignoresCase (hg : ∀ r ∈ g.rules, r.IgnoresCase)
    (hok : ofVocabulary (.ofGrammar g) = .ok h) {a : Marking} (ha : a ∈ h.markings) :
    ∃ n ws, a = .words n ws ∧ ∀ w ∈ ws, w.keyword.exact = false := by
  cases a with
  | words n ws =>
    obtain ⟨rule, hrule, rfl⟩ := words_of_mem hok ha
    refine ⟨n, _, rfl, ?_⟩
    rw [List.forall_mem_map]
    exact fun _ _ => hg _ hrule
  | pattern n m r =>
    obtain ⟨rule, hrule, _⟩ := pattern_of_mem hok ha
    exact absurd (hg _ hrule) id

/-- Texts that differ only in case are alike after all rules. -/
theorem lowerOutside_marked {markings : List Marking}
    (hwords : ∀ a ∈ markings, ∃ n ws, a = .words n ws ∧ ∀ w ∈ ws, w.keyword.exact = false)
    {text text' : List Char} (heq : text.map Char.toLower = text'.map Char.toLower) :
    Markup.lowerOutside false (marked text markings) =
      Markup.lowerOutside false (marked text' markings) := by
  induction markings using List.reverseRecOn with
  | nil => exact Markup.lowerOutside_escape heq
  | append_singleton markings a ih =>
    rw [marked_concat, marked_concat]
    obtain ⟨n, ws, rfl, hws⟩ := hwords a (List.mem_append_right _ List.mem_cons_self)
    exact Markup.lowerOutside_mapPlain (Marking.lowerOutside_apply_words hws)
      (ih fun b hb => hwords b (List.mem_append_left _ hb))

/-- If no rule of a grammar has case and none is a pattern rule, the markup of two texts that differ
only in the case of ASCII letters differs in nothing else, and has the same tags in the same places,
whatever the keywords, the classes and the meanings are. -/
theorem highlight_case_congr (hg : ∀ r ∈ g.rules, r.IgnoresCase)
    (hok : ofVocabulary (.ofGrammar g) = .ok h) {text text' : List Char}
    (heq : text.map Char.toLower = text'.map Char.toLower) :
    (h.highlight text).map Char.toLower = (h.highlight text').map Char.toLower ∧
      Markup.placedTags (h.highlight text) = Markup.placedTags (h.highlight text') := by
  have halike : Markup.lowerOutside false (h.highlight text) =
      Markup.lowerOutside false (h.highlight text') := by
    rw [highlight_eq, highlight_eq]
    have hnil : text = [] ↔ text' = [] := by
      rw [← List.map_eq_nil_iff (f := Char.toLower), heq, List.map_eq_nil_iff]
    rw [if_congr hnil rfl rfl]
    split
    · rfl
    · exact lowerOutside_marked (fun a ha => exists_words_of_ignoresCase hg hok ha) heq
  exact ⟨Markup.map_toLower_of_lowerOutside halike, Markup.placedTags_congr halike⟩

/-- A rule of two words, the second of which is found in the tags of the first. -/
def brokenTags : Grammar :=
  { Grammar.empty with
    rules := [.keyword ⟨"words", false, true, ["eq", "CLASS"].map fun w => ⟨w, "Word", "A word"⟩⟩]
    types := [⟨"Word", "blue", "Text", none, none⟩] }

/-- The tags are the same and in the same places, though one of the words breaks those of the other. -/
theorem highlight_case_congr_brokenTags :
    ∃ h, ofVocabulary (.ofGrammar brokenTags) = .ok h ∧
      (∀ r ∈ brokenTags.rules, r.IgnoresCase) ∧
      "X Eq".toList.map Char.toLower = "x EQ".toList.map Char.toLower ∧
      h.highlight "X Eq".toList = ("X <span <span class='rcse-word' title='A word'>class</span>" ++
        "='rcse-word' title='A word'>Eq</span>").toList ∧
      (h.highlight "X Eq".toList).map Char.toLower = (h.highlight "x EQ".toList).map Char.toLower ∧
      Markup.placedTags (h.highlight "X Eq".toList) =
        Markup.placedTags (h.highlight "x EQ".toList) := by
  have hmarkup : (ofVocabulary (.ofGrammar brokenTags)).toOption.any fun h =>
      h.highlight "X Eq".toList = ("X <span <span class='rcse-word' title='A word'>class</span>" ++
        "='rcse-word' title='A word'>Eq</span>").toList := by
    decide +kernel
  obtain ⟨h, hok, hmarkup⟩ := Results.exists_of_any hmarkup
  have hg : ∀ r ∈ brokenTags.rules, r.IgnoresCase := by decide
  have heq : "X Eq".toList.map Char.toLower = "x EQ".toList.map Char.toLower := by decide
  exact ⟨h, hok, hg, heq, of_decide_eq_true hmarkup, highlight_case_congr hg hok heq⟩

end Highlighter

end Annotator
