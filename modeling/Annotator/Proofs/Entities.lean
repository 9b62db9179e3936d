import Mathlib.Data.List.Infix
import Annotator.Proofs.KeywordSearch
import Annotator.Proofs.PatternSearch
import Annotator.Proofs.Spans

/-!
# Entities

Rules mark the escaped text, in which an entity stands for each special character. A rule that finds
something inside an entity, or from inside one, takes it apart: the word `lt` does, since `&lt;` has
it between two marks. Rules that find nothing of this kind leave every entity whole.

For a word this can be decided from the word and the four entities (`Keyword.Spares`). For a pattern
it is a condition on what the pattern finds in escaped texts without brackets.

## Key results

- `Markup.escaped_escape`: every ampersand of an escaped text begins an entity
- `Keyword.Spares.escaped_segments`: a word that spares entities takes none apart
- `Highlighter.escaped_of_mem_segments`: entities stay whole where every rule spares them
-/

namespace Annotator

namespace Markup

/-- What escaping puts in place of special characters. -/
def entities : List (List Char) :=
  ["&amp;".toList, "&lt;".toList, "&gt;".toList, "&quot;".toList]

/-- A text in which every ampersand begins an entity. -/
def Escaped (text : List Char) : Prop :=
  ∀ s, s <:+ text → s.head? = some '&' → ∃ e ∈ entities, e <+: s

instance (text : List Char) : Decidable (Escaped text) :=
  decidable_of_iff (∀ s ∈ text.tails, s.head? = some '&' → ∃ e ∈ entities, e <+: s) <| by
    simp only [Escaped, List.mem_tails]

/-! ### Entities as words -/

variable {e : List Char}

/-- An entity ends with its only semicolon. -/
theorem not_mem_dropLast_of_mem_entities (he : e ∈ entities) : ';' ∈ e ∧ ';' ∉ e.dropLast := by
  have key : ∀ e ∈ entities, ';' ∈ e ∧ ';' ∉ e.dropLast := by decide
  exact key e he

/-- An entity at the front of a composed text ends in the first part, or goes on in the second. -/
theorem prefix_append_cases {a b : List Char} (h : e <+: a ++ b) :
    e <+: a ∨ ∃ y, y ≠ [] ∧ y <+: b ∧ e = a ++ y := by
  rcases List.prefix_or_prefix_of_prefix h (List.prefix_append a b) with h' | h'
  · exact .inl h'
  · obtain ⟨y, rfl⟩ := h'
    by_cases hy : y = []
    · exact .inl (by simp [hy])
    · exact .inr ⟨y, hy, (List.prefix_append_right_inj a).mp h, rfl⟩

/-! ### Escaped texts -/

theorem escaped_of_not_mem {text : List Char} (h : '&' ∉ text) : Escaped text :=
  fun _ hs hhead => absurd (hs.subset (List.mem_of_head? hhead)) h

theorem escaped_of_mem_entities (he : e ∈ entities) : Escaped e := by
  have key : ∀ e ∈ entities, Escaped e := by decide
  exact key e he

theorem Escaped.of_suffix {a b : List Char} (h : Escaped b) (hs : a <:+ b) : Escaped a :=
  fun s hsuf hhead => h s (hsuf.trans hs) hhead

theorem Escaped.append {a b : List Char} (ha : Escaped a) (hb : Escaped b) : Escaped (a ++ b) := by
  intro s hs hhead
  rcases suffix_append_cases hs with hs | ⟨r, hr, hsuf, rfl⟩
  · exact hb s hs hhead
  · rw [List.head?_append_of_ne_nil r hr] at hhead
    obtain ⟨e, he, hpre⟩ := ha r hsuf hhead
    exact ⟨e, he, hpre.trans (List.prefix_append r b)⟩

/-- No entity reaches over a character that is in none. -/
theorem Escaped.of_append_cons {a b : List Char} {c : Char} (h : Escaped (a ++ c :: b))
    (hc : ∀ e ∈ entities, c ∉ e) : Escaped a := by
  rintro s ⟨t, rfl⟩ hhead
  have hsuf : s ++ c :: b <:+ t ++ s ++ c :: b := ⟨t, by simp⟩
  have hhead' : (s ++ c :: b).head? = some '&' := by rw [List.head?_append, hhead]; rfl
  obtain ⟨e, he, hpre⟩ := h _ hsuf hhead'
  rcases prefix_append_cases hpre with hpre | ⟨y, hy, hy', rfl⟩
  · exact ⟨e, he, hpre⟩
  · obtain ⟨d, y, rfl⟩ := List.exists_cons_of_ne_nil hy
    obtain ⟨rfl, -⟩ := List.cons_prefix_cons.mp hy'
    exact absurd (List.mem_append_right s List.mem_cons_self) (hc _ he)

/-- Every ampersand of an escaped text begins an entity. -/
theorem escaped_escape (text : List Char) : Escaped (escape text) := by
  have key (c : Char) : Escaped (escapeChar c) := by
    unfold escapeChar
    split
    · exact escaped_of_mem_entities (by decide)
    · exact escaped_of_mem_entities (by decide)
    · exact escaped_of_mem_entities (by decide)
    · exact escaped_of_mem_entities (by decide)
    · rename_i hamp _ _ _
      exact escaped_of_not_mem fun h => hamp (List.mem_singleton.mp h).symm
  induction text with
  | nil => exact escaped_of_not_mem List.not_mem_nil
  | cons c text ih =>
    rw [escape, List.flatMap_cons]
    exact (key c).append ih

end Markup

/-! ### Words -/

namespace Keyword

open Search (lastOf)

/-- A word that takes no entity apart: its own entities are whole, it is not found inside an entity,
and it does not begin with what an entity ends with. -/
structure Spares (k : Keyword) : Prop where
  escaped : Markup.Escaped k.text
  inside : ∀ e ∈ Markup.entities, k.search (some '&') e.tail = none
  across : ∀ e ∈ Markup.entities, ∀ y ∈ e.tail.tails, y ≠ [] →
    strip (fun a b => k.sameChar b a) y k.text = none

instance (k : Keyword) : Decidable k.Spares :=
  decidable_of_iff (Markup.Escaped k.text ∧
    (∀ e ∈ Markup.entities, k.search (some '&') e.tail = none) ∧
    ∀ e ∈ Markup.entities, ∀ y ∈ e.tail.tails, y ≠ [] →
      strip (fun a b => k.sameChar b a) y k.text = none)
    ⟨fun h => ⟨h.1, h.2.1, h.2.2⟩, fun h => ⟨h.1, h.2, h.3⟩⟩

namespace Spares

variable {k : Keyword}

/-- The empty word is found inside every entity. -/
theorem text_ne_nil (hk : k.Spares) : k.text ≠ [] := by
  obtain ⟨text, exact, bounded⟩ := k
  rintro rfl
  have hfound : ∀ exact bounded,
      (⟨[], exact, bounded⟩ : Keyword).search (some '&') "lt;".toList ≠ none := by decide
  exact hfound exact bounded (hk.inside "&lt;".toList (by decide))

/-- The word stands nowhere between the ampersand and the end of an entity. -/
theorem front_eq_none (hk : k.Spares) {x y : List Char} (he : '&' :: (x ++ y) ∈ Markup.entities)
    (hy : y ≠ []) : k.front (lastOf (some '&') x) y = none := by
  have hp := front_proper hk.text_ne_nil
  have hnone : k.search (some '&') (x ++ y) = none := hk.inside _ he
  have hscan := Search.scanned hp (some '&') (x ++ y)
  rw [Search.scan_of_search_none hp hnone] at hscan
  generalize htail : x ++ y = tail at hscan
  cases hscan with
  | rest nothing => exact nothing x y htail.symm hy

/-- What is found in an escaped text does not begin inside an entity. -/
theorem escaped_before (hk : k.Spares) {prev : Option Char} {b m r : List Char}
    (h : Markup.Escaped (b ++ (m ++ r)))
    (hfound : k.front (lastOf prev b) (m ++ r) = some m.length) : Markup.Escaped b := by
  obtain ⟨hsame, hbound⟩ := front_append_eq_some_iff.mp hfound
  rintro s ⟨u, rfl⟩ hhead
  obtain ⟨s, rfl⟩ : ∃ x, s = '&' :: x := ⟨s.tail, List.eq_cons_of_mem_head? hhead⟩
  have hsuf : '&' :: s ++ (m ++ r) <:+ u ++ '&' :: s ++ (m ++ r) := ⟨u, by simp⟩
  obtain ⟨e, he, hpre⟩ := h _ hsuf rfl
  rcases Markup.prefix_append_cases hpre with hpre | ⟨y, hy, hym, rfl⟩
  · exact ⟨e, he, hpre⟩
  · -- the entity goes on behind the place where the word is found
    exfalso
    by_cases hle : y.length ≤ m.length
    · -- it ends inside the word, which then begins with its end
      obtain ⟨z, rfl⟩ := List.prefix_of_prefix_length_le hym (List.prefix_append m r) hle
      have hword := List.forall₂_take_append k.text y z hsame
      have hstrip : strip (fun a b => k.sameChar b a) y k.text = some (k.text.drop y.length) :=
        strip_eq_some_iff.mpr ⟨_, (List.take_append_drop _ _).symm, hword.flip⟩
      have hmem : y ∈ ('&' :: s ++ y).tail.tails := (List.mem_tails _ _).mpr (List.suffix_append s y)
      rw [hk.across _ he y hmem hy] at hstrip
      cases hstrip
    · -- or it contains the word, which would be found in it
      obtain ⟨z, rfl⟩ := List.prefix_of_prefix_length_le (List.prefix_append m r) hym (by omega)
      have hz : z ≠ [] := by
        rintro rfl
        simp at hle
      have hzr : z.head? = r.head? := by
        obtain ⟨t, rfl⟩ := (List.prefix_append_right_inj m).mp hym
        rw [List.head?_append_of_ne_nil z hz]
      have hm := ne_nil_of_matched hk.text_ne_nil hsame
      have hlast : lastOf prev (u ++ '&' :: s) = lastOf (some '&') s := by
        rw [Search.lastOf_append, Search.lastOf_cons]
      have hnone := hk.front_eq_none he hy
      rw [hlast, List.head?_append_of_ne_nil m hm] at hbound
      have hsome : k.front (lastOf (some '&') s) (m ++ z) = some m.length := by
        refine front_append_eq_some_iff.mpr ⟨hsame, ?_⟩
        rwa [List.head?_append_of_ne_nil m hm, hzr]
      rw [hnone] at hsome
      cases hsome

/-- What is found in an escaped text does not end inside an entity. -/
theorem escaped_matched (hk : k.Spares) {m r : List Char} (h : Markup.Escaped (m ++ r))
    (hsame : List.Forall₂ (fun a b => k.sameChar a b = true) k.text m) : Markup.Escaped m := by
  rintro s ⟨u, rfl⟩ hhead
  obtain ⟨s, rfl⟩ : ∃ x, s = '&' :: x := ⟨s.tail, List.eq_cons_of_mem_head? hhead⟩
  have hsuf : '&' :: s ++ r <:+ u ++ '&' :: s ++ r := ⟨u, by simp⟩
  obtain ⟨e, he, hpre⟩ := h _ hsuf rfl
  rcases Markup.prefix_append_cases hpre with hpre | ⟨y, hy, _, rfl⟩
  · exact ⟨e, he, hpre⟩
  · -- the word has an ampersand there, and an entity that ends in what is found
    exfalso
    have hafter := List.forall₂_drop_append k.text u ('&' :: s) hsame
    obtain ⟨a, w, ha, hw, hdrop⟩ := List.forall₂_cons_right_iff.mp hafter
    obtain rfl : a = '&' := eq_of_sameChar_mark (by decide) ha
    obtain ⟨e, he', hword⟩ := hk.escaped _ (List.drop_suffix u.length k.text) (by rw [hdrop]; rfl)
    have hsemi := (Markup.not_mem_dropLast_of_mem_entities he').1
    rw [hdrop] at hword
    have hmem : ';' ∈ '&' :: s :=
      (mem_matched_iff (by decide) (.cons ha hw)).mpr (hword.subset hsemi)
    refine (Markup.not_mem_dropLast_of_mem_entities he).2 ?_
    rw [List.dropLast_append_of_ne_nil hy]
    exact List.mem_append_left _ hmem

/-- A word that spares entities takes none apart: of the pieces that it cuts an escaped text into,
those between hits and the hits alike, none ends or begins inside an entity. -/
theorem escaped_segments (hk : k.Spares) {text : List Char} (h : Markup.Escaped text) :
    ∀ p ∈ (k.search.cut text).segments, Markup.Escaped p := by
  rw [search, Search.cut_ofFront]
  have hscan := Search.scanned (front_proper hk.text_ne_nil) none text
  generalize (none : Option Char) = prev, Search.scan k.front none text = c at hscan
  induction hscan with
  | rest _ => exact List.forall_mem_singleton.mpr h
  | @hit prev b m r a _ found _ ih =>
    have hrest : Markup.Escaped (m ++ r) := h.of_suffix (List.suffix_append b _)
    obtain ⟨hsame, -⟩ := front_append_eq_some_iff.mp found
    rw [Cut.segments, List.forall_mem_cons, List.forall_mem_cons]
    exact ⟨hk.escaped_before h found, hk.escaped_matched hrest hsame,
      ih (hrest.of_suffix (List.suffix_append m r))⟩

end Spares

end Keyword

/-! ### Patterns -/

/-- A search that takes no entity apart: of the pieces that it cuts an escaped text without opening
brackets into, none ends or begins inside an entity. -/
def Search.Spares (search : Search) : Prop :=
  ∀ text, '<' ∉ text → Markup.Escaped text → ∀ p ∈ (search.cut text).segments, Markup.Escaped p

/-- A class spares entities if it has none of their characters. -/
theorem Pattern.Program.spares_classFront {set : Unicode.CodeSet}
    (h : ∀ e ∈ Markup.entities, ∀ c ∈ e, set.contains c.toNat = false) :
    (Search.ofFront (classFront set)).Spares := by
  intro text hopen htext
  clear hopen
  rw [Search.cut_ofFront]
  have hp : Search.Proper (classFront set) := classFront_proper
  have hscan := Search.scanned hp none text
  generalize (none : Option Char) = prev, Search.scan (classFront set) none text = c at hscan
  induction hscan with
  | rest _ => exact List.forall_mem_singleton.mpr htext
  | @hit prev b m r a _ found _ ih =>
    -- what is found is one character of the class
    obtain ⟨c, hc, rfl⟩ : ∃ c, set.contains c.toNat = true ∧ m = [c] := by
      cases m with
      | nil => exact absurd (hp.pos found) (Nat.lt_irrefl 0)
      | cons c m =>
        rw [List.cons_append, classFront, Option.ite_none_right_eq_some, Option.some.injEq] at found
        obtain rfl : m = [] := List.length_eq_zero_iff.mp (by simpa using found.2.symm)
        exact ⟨c, found.1, rfl⟩
    have hnot : ∀ e ∈ Markup.entities, c ∉ e := by
      intro e he hmem
      rw [h e he c hmem] at hc
      cases hc
    have hone : Markup.Escaped [c] := by
      refine Markup.escaped_of_not_mem fun hmem => ?_
      obtain rfl := List.mem_singleton.mp hmem
      exact hnot "&amp;".toList (by decide) (by decide)
    rw [Cut.segments, List.forall_mem_cons, List.forall_mem_cons]
    exact ⟨htext.of_append_cons hnot, hone, ih (htext.of_suffix ⟨b ++ [c], by rw [List.append_assoc]⟩)⟩

/-! ### Rules -/

/-- Putting hits in spans makes an escaped text if all pieces are escaped. -/
theorem Markup.escaped_replace_wrap {opening : List Char} (ho : '&' ∉ opening) {c : Cut}
    (h : ∀ p ∈ c.segments, Escaped p) : Escaped (c.replace fun m _ => wrap opening m) := by
  induction c with
  | rest t => exact h t List.mem_cons_self
  | hit b m g a ih =>
    rw [Cut.segments, List.forall_mem_cons, List.forall_mem_cons] at h
    obtain ⟨hb, hm, ha⟩ := h
    have hclosing : Escaped closing := escaped_of_not_mem (by decide)
    exact (hb.append (((escaped_of_not_mem ho).append hm).append hclosing)).append (ih ha)

namespace Marking

/-- A rule that spares entities: all of its words do, or its pattern does. -/
def Spares : Marking → Prop
  | words _ ws => ∀ w ∈ ws, w.keyword.Spares
  | pattern _ m _ => m.search.Spares

/-- A rule whose opening tags have no ampersand. -/
def NoAmpersand : Marking → Prop
  | words _ ws => ∀ w ∈ ws, '&' ∉ w.opening
  | pattern _ _ r => ∀ className, r = .wrap className → '&' ∉ Replacement.opening className

/-- A rule that spares entities leaves an escaped text escaped. -/
theorem Spares.escaped_apply {a : Marking} (hs : a.Spares) (hputs : a.PutsSpans)
    (hamp : a.NoAmpersand) {text : List Char} (hopen : '<' ∉ text) (h : Markup.Escaped text) :
    Markup.Escaped (a.apply text) := by
  cases a with
  | words n ws =>
    have key : ∀ ws : List WordMarking, (∀ w ∈ ws, w.keyword.Spares) → (∀ w ∈ ws, '&' ∉ w.opening) →
        ∀ t, Markup.Escaped t → Markup.Escaped (ws.foldl (fun t w => w.apply t) t) := by
      intro ws
      induction ws with
      | nil => exact fun _ _ t ht => ht
      | cons w ws ih =>
        intro hs hamp t ht
        rw [List.forall_mem_cons] at hs hamp
        exact ih hs.2 hamp.2 _ (Markup.escaped_replace_wrap hamp.1 (hs.1.escaped_segments ht))
    exact key ws hs hamp text h
  | pattern n m r =>
    obtain ⟨className, rfl, _⟩ := hputs
    rw [apply, Replacement.text_wrap]
    exact Markup.escaped_replace_wrap (hamp className rfl) (hs text hopen h)

end Marking

/-! ### Texts with changed plain segments -/

namespace Markup

/-- No entity reaches over the border of a tag. -/
theorem IsTag.escaped_parts {b m r : List Char} (ht : IsTag m) (h : Escaped (b ++ m ++ r)) :
    Escaped b ∧ Escaped m ∧ Escaped r := by
  obtain ⟨inner, _, _, rfl⟩ := ht
  have hbefore : Escaped b := by
    refine Escaped.of_append_cons (b := inner ++ '>' :: r) (c := '<') ?_ (by decide)
    simpa using h
  have hinside : Escaped ('<' :: inner) := by
    refine Escaped.of_append_cons (b := r) (c := '>') ?_ (by decide)
    exact h.of_suffix ⟨b, by simp⟩
  exact ⟨hbefore, hinside.append (escaped_of_not_mem (by decide)), h.of_suffix (List.suffix_append _ r)⟩

/-- The segments of an escaped text are escaped. -/
theorem Segmented.escaped_segments {c : Cut} (hc : Segmented c) (h : Escaped c.text) :
    ∀ s ∈ c.segments, Escaped s := by
  induction hc with
  | rest _ => exact List.forall_mem_singleton.mpr h
  | hit _ htag _ _ ih =>
    obtain ⟨hb, hm, ha⟩ := htag.escaped_parts h
    rw [Cut.segments, List.forall_mem_cons, List.forall_mem_cons]
    exact ⟨hb, hm, ih ha⟩

/-- The segments of a closed text that is escaped are escaped. -/
theorem Closed.escaped_segments {text : List Char} (hc : Closed text) (h : Escaped text) :
    ∀ s ∈ segments text, Escaped s := by
  refine (segmented_cut hc).escaped_segments ?_
  rwa [tag, Search.text_cut]

/-- An escaped text stays escaped if its plain segments are exchanged for escaped texts. -/
theorem escaped_rewritten {c : Cut} (hc : Segmented c) {x : List Char}
    (h : Rewritten (fun b b' => '<' ∉ b → Escaped b → Escaped b') c x) (hesc : Escaped c.text) :
    Escaped x := by
  induction h with
  | rest h =>
    cases hc with
    | rest hplain => exact h hplain hesc
  | hit h _ ih =>
    cases hc with
    | hit hplain htag _ hlater =>
      obtain ⟨hb, hm, ha⟩ := htag.escaped_parts hesc
      exact (h hplain hb).append (hm.append (ih hlater ha))

end Markup

namespace Highlighter

/-- The text between two rules that spare entities is escaped. -/
theorem escaped_marked (text : List Char) {markings : List Marking}
    (hputs : ∀ a ∈ markings, a.PutsSpans) (hamp : ∀ a ∈ markings, a.NoAmpersand)
    (hspares : ∀ a ∈ markings, a.Spares) : Markup.Escaped (marked text markings) := by
  induction markings using List.reverseRecOn with
  | nil => exact Markup.escaped_escape text
  | append_singleton markings a ih =>
    rw [List.forall_mem_append, List.forall_mem_singleton] at hputs hamp hspares
    have ih := ih hputs.1 hamp.1 hspares.1
    have hseg := Markup.segmented_cut (closed_marked text hputs.1)
    rw [marked_concat]
    refine Markup.escaped_rewritten hseg (Markup.rewritten_mapSegments (fun _ _ h => h)
      (fun _ => hspares.2.escaped_apply hputs.2 hamp.2) hseg false) ?_
    rwa [Markup.tag, Search.text_cut]

/-- The rules of a grammar without ampersands in its classes and meanings put none in tags. -/
theorem noAmpersand_of_mem {g : Grammar} {h : Highlighter} (hg : g.SpansOnly)
    (hclasses : ∀ s ∈ g.types, '&' ∉ s.className.toList)
    (hmeanings : ∀ t ∈ g.tokens, '&' ∉ t.description.toList)
    (hok : ofVocabulary (.ofGrammar g) = .ok h) : ∀ a ∈ h.markings, a.NoAmpersand := by
  have hclass := Vocabulary.not_mem_classOf (g := g) (d := '&') (by decide) (by decide) hclasses
  have hopening {className : String} (hc : '&' ∉ className.toList) :
      '&' ∉ Replacement.opening className := by
    simpa [Replacement.opening] using hc
  intro a ha
  cases a with
  | words n ws =>
    obtain ⟨rule, hrule, rfl⟩ := words_of_mem hok ha
    rw [Marking.NoAmpersand, List.forall_mem_map]
    intro token htoken
    have hmeaning := hmeanings token (List.mem_flatMap.mpr ⟨_, hrule, htoken⟩)
    simpa [WordMarking.opening, WordMarking.standard, hclass] using hmeaning
  | pattern n m r =>
    obtain ⟨rule, hrule, _, rfl⟩ := pattern_of_mem hok ha
    intro className hwrap
    rcases Replacement.ofRule_eq_wrap (.ofGrammar g) m (hg.patterns rule hrule) with h | ⟨t, h⟩
    · rw [h, Replacement.wrap.injEq] at hwrap
      exact hwrap ▸ hopening (by decide)
    · rw [h, Replacement.wrap.injEq] at hwrap
      exact hwrap ▸ hopening (hclass t)

/-- Where every rule spares entities, every ampersand in a segment of the markup begins an entity
that lies in the segment. -/
theorem escaped_of_mem_segments {g : Grammar} {h : Highlighter} (hg : g.SpansOnly)
    (hclasses : ∀ s ∈ g.types, '&' ∉ s.className.toList)
    (hmeanings : ∀ t ∈ g.tokens, '&' ∉ t.description.toList)
    (hok : ofVocabulary (.ofGrammar g) = .ok h) (hspares : ∀ a ∈ h.markings, a.Spares)
    (text : List Char) : ∀ s ∈ Markup.segments (h.highlight text), Markup.Escaped s := by
  have hputs := hg.putsSpans hok
  have hamp := noAmpersand_of_mem hg hclasses hmeanings hok
  rw [highlight_eq]
  split
  · exact Markup.bracketFree_nil.closed.escaped_segments
      (Markup.escaped_of_not_mem List.not_mem_nil)
  · exact (closed_marked text hputs).escaped_segments (escaped_marked text hputs hamp hspares)

/-- A rule for a word and one for digits. -/
def wordAndDigits : Grammar where
  version := "1.0.0"
  description := none
  reference := none
  rules := [.keyword ⟨"word", false, true, [⟨"eq", "Word", "equal"⟩]⟩,
    .pattern ⟨"digits", "[0-9]", some "Digit", none⟩]
  types := [⟨"Word", "blue", "Text", none, none⟩, ⟨"Digit", "red", "Text", none, none⟩]
  metadata := none

private theorem spares_wordAndDigits {h : Highlighter}
    (hok : ofVocabulary (.ofGrammar wordAndDigits) = .ok h) : ∀ a ∈ h.markings, a.Spares := by
  intro a ha
  cases a with
  | words n ws =>
    obtain ⟨rule, hrule, rfl⟩ := words_of_mem hok ha
    obtain rfl : rule = ⟨"word", false, true, [⟨"eq", "Word", "equal"⟩]⟩ := by
      simpa [Vocabulary.ofGrammar, wordAndDigits] using hrule
    intro w hw
    obtain rfl := List.mem_singleton.mp hw
    have hspares : (⟨"eq".toList, false, true⟩ : Keyword).Spares := by decide +kernel
    exact hspares
  | pattern n m r =>
    obtain ⟨rule, hrule, hm, -⟩ := pattern_of_mem hok ha
    obtain rfl : rule = ⟨"digits", "[0-9]", some "Digit", none⟩ := by
      simpa [Vocabulary.ofGrammar, wordAndDigits] using hrule
    have hparse : Pattern.Form.parse? "[0-9]".toList = some (.chars [(48, 57)] false) := by
      with_unfolding_all rfl
    have hdigits : (Markup.entities.flatten.all fun c =>
        !Unicode.CodeSet.contains [(48, 57)] c.toNat) = true := by
      decide
    rw [Marking.Spares, Pattern.Matcher.search_of_chars hm hparse]
    refine Pattern.Program.spares_classFront fun e he c hc => ?_
    simpa using List.all_eq_true.mp hdigits c (List.mem_flatten.mpr ⟨e, he, hc⟩)

/-- Entities next to a digit, and a word inside one. -/
theorem escaped_of_mem_segments_wordAndDigits :
    ∃ h, ofVocabulary (.ofGrammar wordAndDigits) = .ok h ∧ (∀ a ∈ h.markings, a.Spares) ∧
      ∀ s ∈ Markup.segments (h.highlight "a eq <2&3> \"eq\"".toList), Markup.Escaped s := by
  have hsome : (ofVocabulary (.ofGrammar wordAndDigits)).toOption.any (fun _ => true) := by
    decide +kernel
  obtain ⟨h, hok, -⟩ := Results.exists_of_any hsome
  have hspans : wordAndDigits.SpansOnly := by
    refine ⟨?_, ?_, ?_⟩
    · intro r hr
      obtain rfl : r = ⟨"digits", "[0-9]", some "Digit", none⟩ := by
        simpa [wordAndDigits] using hr
      exact .inl rfl
    · unfold Markup.BracketFree
      decide +kernel
    · unfold Markup.BracketFree
      decide +kernel
  have hspares := spares_wordAndDigits hok
  exact ⟨h, hok, hspares,
    escaped_of_mem_segments hspans (by decide +kernel) (by decide +kernel) hok hspares _⟩

/-- The markup of that text. -/
example : (ofVocabulary (.ofGrammar wordAndDigits)).toOption.map
    (fun h => String.ofList (h.highlight "a eq <2&3> \"eq\"".toList)) =
      some ("a <span class='rcse-word' title='equal'>eq</span> &lt;" ++
        "<span class='rcse-digit'>2</span>&amp;<span class='rcse-digit'>3</span>&gt; &quot;" ++
        "<span class='rcse-word' title='equal'>eq</span>&quot;") := by
  decide +kernel

/-- A word that is the name of an entity takes it apart. -/
theorem exists_not_escaped :
    ∃ (g : Grammar) (h : Highlighter) (text : List Char), g.SpansOnly ∧
      (∀ s ∈ g.types, '&' ∉ s.className.toList) ∧
      (∀ t ∈ g.tokens, '&' ∉ t.description.toList) ∧
      ofVocabulary (.ofGrammar g) = .ok h ∧
      ∃ s ∈ Markup.segments (h.highlight text), Markup.isTag s = false ∧ ¬ Markup.Escaped s := by
  have hapart : (ofVocabulary (.ofGrammar (.inTurn true [⟨"lt", "Word", "less than"⟩]))).toOption.any
      fun h => (Markup.segments (h.highlight "a < b".toList)).any
        fun s => Markup.isTag s = false ∧ ¬ Markup.Escaped s := by
    decide +kernel
  obtain ⟨h, hok, hapart⟩ := Results.exists_of_any hapart
  obtain ⟨s, hs, hnot⟩ := List.any_eq_true.mp hapart
  have hspans : (Grammar.inTurn true [⟨"lt", "Word", "less than"⟩]).SpansOnly := by
    refine ⟨?_, ?_, ?_⟩
    · intro r hr
      simp [Grammar.inTurn] at hr
    · unfold Markup.BracketFree
      decide +kernel
    · unfold Markup.BracketFree
      decide +kernel
  exact ⟨_, h, _, hspans, by decide +kernel, by decide +kernel, hok, s, hs, of_decide_eq_true hnot⟩

end Highlighter

end Annotator
