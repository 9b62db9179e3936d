import Mathlib.Data.List.Induction
import Annotator.Proofs.Comments
import Annotator.Proofs.Nesting

/-!
# Open comments

The nearest tag before a segment that closes a span or opens a comment tells whether the segment is in
a comment. For nested spans this would be wrong in general: behind a span in a comment it takes the
comment for closed. But no rule puts tags into a comment, and the spans of words are none, so every tag
that opens a comment is followed by the one that closes it. This is kept by every rule (`shut_mapCut`),
and where it holds the nearest tag tells what a stack of the open spans would tell (`Agrees`).

## Key results

- `Markup.mapPlain_eq`: the plain text that a rule leaves alone, segment by segment
- `Markup.Agrees.foldl`: what the nearest tag tells agrees with the spans that are open
- `Highlighter.shut_marked`: the comments of a text between two rules have no tags in them
- `Highlighter.insideComment_iff`: a place is inside a comment if one of the open spans is a comment
-/

namespace Annotator

namespace Markup

/-! ### The nearest tag -/

/-- Whether a comment is open behind some segments, of which the last comes first: the first tag that
closes a span or opens a comment decides. -/
def scanBack : List (List Char) → Bool
  | [] => false
  | s :: earlier =>
    if isTag s then
      if s == closing then false
      else if commentOpening.isPrefixOf s then true
      else scanBack earlier
    else scanBack earlier

/-- Whether the place behind some segments is inside a comment. -/
def insideComment (before : List (List Char)) : Bool := scanBack before.reverse

theorem insideComment_concat (before : List (List Char)) (s : List Char) :
    insideComment (before ++ [s]) = commentAfter (insideComment before) s := by
  rw [insideComment, List.reverse_append, List.reverse_singleton, List.singleton_append, scanBack]
  rfl

/-- The nearest tag tells what is known after all segments have been read in order. -/
theorem foldl_commentAfter (before : List (List Char)) :
    before.foldl commentAfter false = insideComment before := by
  induction before using List.reverseRecOn with
  | nil => rfl
  | append_singleton before s ih =>
    rw [List.foldl_append, ih, insideComment_concat, List.foldl_cons, List.foldl_nil]

private theorem mapSegments_eq (f : List Char → List Char) (before l : List (List Char)) :
    mapSegments f (insideComment before) l = ((l.zipIdx before.length).map fun (s, i) =>
      if isTag s || insideComment ((before ++ l).take i) then s else f s).flatten := by
  induction l generalizing before with
  | nil => rfl
  | cons s later ih =>
    have hnext : before ++ s :: later = before ++ [s] ++ later := by simp
    rw [mapSegments, ← insideComment_concat, ih, List.zipIdx_cons, List.map_cons, List.flatten_cons,
      ← hnext, List.length_append, List.length_singleton]
    simp only [List.take_left]

/-- A rule changes the plain segments that are not inside a comment. -/
theorem mapPlain_eq (f : List Char → List Char) (text : List Char) :
    mapPlain f text = ((segments text).zipIdx.map fun (s, i) =>
      if isTag s || insideComment ((segments text).take i) then s else f s).flatten :=
  mapSegments_eq f [] (segments text)

/-! ### The spans that are open -/

/-- The open spans after a tag: an opening tag opens one more, a closing tag closes the innermost. -/
def openStep (spans : List (List Char)) (t : List Char) : List (List Char) :=
  if t == closing then spans.tail
  else if "<span ".toList.isPrefixOf t then t :: spans
  else spans

/-- The spans that are open behind some tags, by their opening tags, the innermost first. -/
def openSpans (tags : List (List Char)) : List (List Char) := tags.foldl openStep []

/-- `Agrees was spans` if `was` tells of the open spans whether one of them is a comment, which then is
the innermost. -/
inductive Agrees : Bool → List (List Char) → Prop
  | outside {spans : List (List Char)} (others : ∀ t ∈ spans, ¬ commentOpening <+: t) :
      Agrees false spans
  | inside {t : List Char} {spans : List (List Char)} (comment : commentOpening <+: t)
      (others : ∀ t ∈ spans, ¬ commentOpening <+: t) : Agrees true (t :: spans)

theorem Agrees.eq_true_iff {was : Bool} {spans : List (List Char)} (h : Agrees was spans) :
    was = true ↔ ∃ t ∈ spans, commentOpening <+: t := by
  cases h with
  | outside others => exact iff_of_false Bool.noConfusion fun ⟨t, ht, hc⟩ => others t ht hc
  | @inside t spans comment _ => exact iff_of_true rfl ⟨t, List.mem_cons_self, comment⟩

theorem ne_closing_of_comment {t : List Char} (h : commentOpening <+: t) : t ≠ closing := by
  rintro rfl
  exact absurd (List.isPrefixOf_iff_prefix.mpr h) (by decide)

/-- A tag keeps the agreement; one that follows the opening of a comment has to close it. -/
theorem Agrees.step {was : Bool} {spans : List (List Char)} (h : Agrees was spans) {t : List Char}
    (htag : isTag t = true) (hnext : was = true → t = closing) :
    Agrees (commentAfter was t) (openStep spans t) := by
  rw [commentAfter, if_pos htag, openStep]
  cases h with
  | inside comment others =>
    obtain rfl := hnext rfl
    rw [if_pos (beq_self_eq_true closing), if_pos (beq_self_eq_true closing), List.tail_cons]
    exact .outside others
  | outside others =>
    split
    · exact .outside fun t ht => others t (List.mem_of_mem_tail ht)
    · split
      · rename_i hcomment
        have hcomment := List.isPrefixOf_iff_prefix.mp hcomment
        have hspan : "<span ".toList <+: commentOpening := List.isPrefixOf_iff_prefix.mp (by decide)
        rw [if_pos (List.isPrefixOf_iff_prefix.mpr (hspan.trans hcomment))]
        exact .inside hcomment others
      · rename_i hcomment
        have hcomment := mt List.isPrefixOf_iff_prefix.mpr hcomment
        split
        · exact .outside (List.forall_mem_cons.mpr ⟨hcomment, others⟩)
        · exact .outside others

/-! ### Comments without tags in them -/

/-- Tags of which every one that opens a comment is followed by one that closes a span. -/
def Shut : List (List Char) → Prop
  | [] => True
  | t :: later => (commentOpening <+: t → later.head? = some closing) ∧ Shut later

theorem Shut.append {a b : List (List Char)} (ha : Shut a) (hb : Shut b) : Shut (a ++ b) := by
  induction a with
  | nil => exact hb
  | cons t a ih =>
    refine ⟨fun ht => ?_, ih ha.2⟩
    have hhead := ha.1 ht
    change (a ++ b).head? = _
    rw [List.head?_append, hhead]
    rfl

theorem shut_of_forall_not {a : List (List Char)} (h : ∀ t ∈ a, ¬ commentOpening <+: t) : Shut a := by
  induction a with
  | nil => exact trivial
  | cons t a ih =>
    obtain ⟨ht, ha⟩ := List.forall_mem_cons.mp h
    exact ⟨fun hcomment => absurd hcomment ht, ih ha⟩

/-- Behind each beginning of such tags the nearest one agrees with the spans that are open. -/
theorem Agrees.foldl {was : Bool} {spans tags p : List (List Char)} (h : Agrees was spans)
    (hnext : was = true → ∀ t ∈ tags.head?, t = closing) (hshut : Shut tags)
    (htags : ∀ t ∈ tags, isTag t = true) (hp : p <+: tags) :
    Agrees (p.foldl commentAfter was) (p.foldl openStep spans) := by
  induction p generalizing was spans tags with
  | nil => exact h
  | cons t p ih =>
    obtain ⟨r, rfl⟩ := hp
    obtain ⟨htag, htags⟩ := List.forall_mem_cons.mp htags
    rw [List.foldl_cons, List.foldl_cons]
    refine ih (h.step htag fun hwas => hnext hwas t rfl) ?_ hshut.2 htags (List.prefix_append p r)
    -- a comment that is open now has been opened by this tag
    intro hwas u hu
    have hcomment : commentOpening <+: t := by
      rw [commentAfter, if_pos htag] at hwas
      split at hwas
      · cases hwas
      · rename_i hne
        split at hwas
        · rename_i hcomment
          exact List.isPrefixOf_iff_prefix.mp hcomment
        · exact absurd (beq_iff_eq.mpr (hnext hwas t rfl)) hne
    have hhead := hshut.1 hcomment
    exact Option.some.inj (hu.symm.trans hhead)

/-- The tags of a closed text are those of its segments that are taken for tags. -/
theorem Segmented.filter_isTag {c : Cut} (h : Segmented c) : c.segments.filter isTag = c.hits := by
  induction h with
  | rest plain => rw [Cut.segments, List.filter_cons_of_neg (by simp [isTag_of_not_mem plain])]; rfl
  | hit plain htag _ _ ih =>
    rw [Cut.segments, List.filter_cons_of_neg (by simp [isTag_of_not_mem plain]),
      List.filter_cons_of_pos htag.isTag, ih, Cut.hits]

/-- In a closed text whose comments have no tags in them, the nearest tag tells of every place whether
one of the open spans is a comment. -/
theorem insideComment_iff_of_shut {text : List Char} (hclosed : Closed text) (hshut : Shut (tags text))
    {before after : List (List Char)} (h : segments text = before ++ after) :
    insideComment before = true ↔ ∃ t ∈ openSpans (before.filter isTag), commentOpening <+: t := by
  have htags : before.filter isTag <+: tags text := by
    rw [tags, ← (segmented_cut hclosed).filter_isTag, ← segments, h, List.filter_append]
    exact List.prefix_append _ _
  -- segments that are no tags do not count
  have hplain : (fun was s => if isTag s = true then commentAfter was s else was) = commentAfter := by
    funext was s
    rw [commentAfter]
    split <;> rfl
  have hfold : insideComment before = (before.filter isTag).foldl commentAfter false := by
    rw [List.foldl_filter, hplain, foldl_commentAfter]
  have hagrees : Agrees false [] := .outside fun _ h => absurd h List.not_mem_nil
  rw [hfold]
  exact (hagrees.foldl Bool.noConfusion hshut
    (fun t ht => (isTag_of_mem_tags ht).isTag) htags).eq_true_iff

/-! ### Comments after a rule -/

theorem head?_hits_mapCut_of_comment (f : List Char → List Char) (c : Cut) :
    (mapCut f true c).hits.head? = c.hits.head? := by
  cases c with
  | rest t => rfl
  | hit b m g a => rfl

/-- Changing plain segments outside comments puts no tags into comments, unless the changed segments
have some with tags in them. -/
theorem shut_mapCut {f : List Char → List Char} (hf : ∀ b, BracketFree b → Shut (tags (f b)))
    {c : Cut} (hc : Segmented c) (hplain : BracketFree c.plain) (hshut : Shut c.hits) (was : Bool) :
    Shut (mapCut f was c).hits := by
  induction hc generalizing was with
  | rest _ =>
    rw [mapCut]
    split
    · exact trivial
    · exact hf _ (by simpa using hplain)
  | @hit b m a _ htag _ _ ih =>
    rw [Cut.plain_hit, bracketFree_append] at hplain
    obtain ⟨hnext, hlater⟩ := hshut
    rw [mapCut, Cut.hits_append]
    refine .append ?_ ⟨fun hcomment => ?_, ih hplain.2 hlater _⟩
    · split
      · exact trivial
      · exact hf b hplain.1
    · -- the segment behind the opening of a comment is not changed
      rw [commentAfter_of_opening htag (List.isPrefixOf_iff_prefix.mpr hcomment),
        head?_hits_mapCut_of_comment]
      exact hnext hcomment

/-- Spans around parts of a text without brackets have no tags in them. -/
theorem shut_replace_wrap {o : List Char} (ho : IsOpening o) {c : Cut} (h : BracketFree c.text) :
    Shut (tags (c.replace fun m _ => wrap o m)) := by
  induction c with
  | rest t =>
    rw [Cut.text_rest] at h
    rw [Cut.replace, tags_of_not_mem h.1]
    exact trivial
  | hit b m g a ih =>
    rw [Cut.text_hit, bracketFree_append, bracketFree_append] at h
    obtain ⟨⟨hb, hm⟩, ha⟩ := h
    have htags : tags (wrap o m) = [o, closing] := by
      rw [wrap, tags_append (ho.closed.append hm.closed), tags_append ho.closed, ho.isTag.tags,
        tags_of_not_mem hm.1, isTag_closing.tags]
      rfl
    have hwrap : Closed (wrap o m) := (ho.closed.append hm.closed).append closed_closing
    rw [Cut.replace, tags_append (hb.closed.append hwrap), tags_append hb.closed,
      tags_of_not_mem hb.1, htags]
    refine .append ⟨fun _ => rfl, fun hcomment => ?_, trivial⟩ (ih ha)
    exact absurd rfl (ne_closing_of_comment hcomment)

end Markup

/-! ### Classes of comments -/

namespace ClassName

/-- A class whose opening tags are taken for those of comments: the class of comments, or that name
and a quote with anything behind it. -/
def OfComments (className : String) : Prop :=
  className = "rcse-comment" ∨ "rcse-comment'".toList <+: className.toList

instance (className : String) : Decidable (OfComments className) :=
  inferInstanceAs (Decidable (_ ∨ _))

end ClassName

/-- A name that ends where the first quote stands is the whole text before the quote, if the text has
no quote itself. -/
private theorem eq_or_prefix_of_prefix {q : Char} {name a later : List Char} (hq : q ∉ name)
    (h : name ++ [q] <+: a ++ q :: later) : a = name ∨ name ++ [q] <+: a := by
  induction name generalizing a with
  | nil =>
    cases a with
    | nil => exact .inl rfl
    | cons c a =>
      obtain ⟨rfl, -⟩ := List.cons_prefix_cons.mp h
      exact .inr (List.cons_prefix_cons.mpr ⟨rfl, List.nil_prefix⟩)
  | cons n name ih =>
    rw [List.mem_cons, not_or] at hq
    cases a with
    | nil => exact absurd (List.cons_prefix_cons.mp h).1.symm hq.1
    | cons c a =>
      obtain ⟨rfl, hlater⟩ := List.cons_prefix_cons.mp h
      rcases ih hq.2 hlater with rfl | hpre
      · exact .inl rfl
      · exact .inr (List.cons_prefix_cons.mpr ⟨rfl, hpre⟩)

/-- The opening tag of a word is taken for that of a comment only if its class is one of comments. -/
theorem WordMarking.ofComments_of_prefix {w : WordMarking}
    (h : Markup.commentOpening <+: w.opening) : ClassName.OfComments w.className := by
  have hopening : w.opening = "<span class='".toList ++
      (w.className.toList ++ '\'' :: (" title='".toList ++ w.description.toList ++ "'>".toList)) := by
    simp [opening]
  have hcomment : Markup.commentOpening =
      "<span class='".toList ++ ("rcse-comment".toList ++ ['\'']) := by decide
  rw [hopening, hcomment, List.prefix_append_right_inj] at h
  rcases eq_or_prefix_of_prefix (by decide) h with hclass | hclass
  · exact .inl (String.toList_inj.mp hclass)
  · exact .inr hclass

/-! ### Comments between two rules -/

/-- A rule of which no word opens a comment puts no tags into the comments of a text without
brackets. -/
theorem Marking.shut_apply {a : Marking} (hputs : a.PutsSpans) (hapart : a.Apart)
    (hwords : ∀ n ws, a = .words n ws → ∀ w ∈ ws, ¬ Markup.commentOpening <+: w.opening)
    {text : List Char} (h : Markup.BracketFree text) : Markup.Shut (Markup.tags (a.apply text)) := by
  cases a with
  | words n ws =>
    have hmarks := WordMarking.marks_foldl hputs hapart.1 hapart.2 h
    refine Markup.shut_of_forall_not fun t ht hcomment => ?_
    obtain ⟨w, hw, rfl | rfl⟩ := hmarks.allowed t ht
    · exact hwords n ws rfl w hw hcomment
    · exact Markup.ne_closing_of_comment hcomment rfl
  | pattern n m r =>
    obtain ⟨className, rfl, ho⟩ := hputs
    rw [apply, Replacement.text_wrap]
    exact Markup.shut_replace_wrap ho (by rwa [Search.text_cut])

namespace Highlighter

/-- The comments of a text between two rules have no tags in them. -/
theorem shut_marked (text : List Char) {markings : List Marking}
    (hputs : ∀ a ∈ markings, a.PutsSpans) (hapart : ∀ a ∈ markings, a.Apart)
    (hwords : ∀ n ws, .words n ws ∈ markings → ∀ w ∈ ws, ¬ Markup.commentOpening <+: w.opening) :
    Markup.Shut (Markup.tags (marked text markings)) := by
  induction markings using List.reverseRecOn with
  | nil =>
    have htags : Markup.tags (marked text []) = [] :=
      Markup.tags_of_not_mem (Markup.bracketFree_escape text).1
    rw [htags]
    exact trivial
  | append_singleton markings a ih =>
    rw [List.forall_mem_append, List.forall_mem_singleton] at hputs hapart
    have ih := ih hputs.1 hapart.1 fun n ws hmem => hwords n ws (List.mem_append_left _ hmem)
    have hmarks := marks_marked text hputs.1 hapart.1
    have hplain : Markup.BracketFree (Markup.tag.cut (marked text markings)).plain := by
      rw [← Markup.shown, hmarks.shown_eq]
      exact Markup.bracketFree_escape text
    have ha (b : List Char) (hb : Markup.BracketFree b) : Markup.Shut (Markup.tags (a.apply b)) := by
      refine Marking.shut_apply hputs.2 hapart.2 (fun n ws heq => ?_) hb
      exact hwords n ws (heq ▸ List.mem_append_right _ List.mem_cons_self)
    rw [marked_concat, Markup.tags, (Markup.cut_mapPlain (fun s hs =>
      hputs.2.closed_apply (Markup.closed_of_not_mem hs)) hmarks.closed).2]
    exact Markup.shut_mapCut ha (Markup.segmented_cut hmarks.closed) hplain ih false

/-- Behind every beginning of the segments of a text between two rules, the nearest tag tells whether
one of the open spans is a comment. -/
theorem insideComment_iff {g : Grammar} {h : Highlighter} (hg : g.SpansOnly)
    (hfree : ∀ t ∈ g.tokens, Markup.BracketFree t.keyword.toList)
    (hok : ofVocabulary (.ofGrammar g) = .ok h) (hapart : h.WordsApart)
    (hclass : ∀ t ∈ g.tokens, ¬ ClassName.OfComments ((Vocabulary.ofGrammar g).classOf t.typeName))
    (text : List Char) (k : Nat) {before after : List (List Char)} {s : List Char}
    (hsegments : Markup.segments (marked text (h.markings.take k)) = before ++ s :: after) :
    Markup.insideComment before = true ↔
      ∃ t ∈ Markup.openSpans (before.filter Markup.isTag), Markup.commentOpening <+: t := by
  have hputs : ∀ a ∈ h.markings.take k, a.PutsSpans :=
    fun a ha => hg.putsSpans hok a (List.mem_of_mem_take ha)
  have hwords : ∀ a ∈ h.markings.take k, a.Apart :=
    fun a ha => hapart.apart hfree hok (List.mem_of_mem_take ha)
  refine Markup.insideComment_iff_of_shut (marks_marked text hputs hwords).closed
    (shut_marked text hputs hwords fun n ws hmem w hw hcomment => ?_) hsegments
  -- the class of a word is that of its token
  obtain ⟨rule, hrule, rfl⟩ := words_of_mem hok (List.mem_of_mem_take hmem)
  obtain ⟨token, htoken, rfl⟩ := List.mem_map.mp hw
  exact hclass token (List.mem_flatMap.mpr ⟨_, hrule, htoken⟩) (WordMarking.ofComments_of_prefix hcomment)

/-- The place in a comment behind a word. -/
theorem insideComment_iff_sample :
    ∃ h, ofVocabulary (.ofGrammar (.sample ["eq"])) = .ok h ∧ h.WordsApart ∧
      Markup.segments (marked "eq // eq".toList (h.markings.take 2)) =
        ["".toList, "<span class='rcse-word' title='a word'>".toList, "eq".toList, "</span>".toList,
          " ".toList, "<span class='rcse-comment'>".toList] ++
            "// eq".toList :: ["</span>".toList, "".toList] ∧
      (Markup.insideComment ["".toList, "<span class='rcse-word' title='a word'>".toList, "eq".toList,
          "</span>".toList, " ".toList, "<span class='rcse-comment'>".toList] = true ↔
        ∃ t ∈ Markup.openSpans (["".toList, "<span class='rcse-word' title='a word'>".toList,
          "eq".toList, "</span>".toList, " ".toList, "<span class='rcse-comment'>".toList].filter
            Markup.isTag), Markup.commentOpening <+: t) := by
  have hsegments : (ofVocabulary (.ofGrammar (.sample ["eq"]))).toOption.any (fun h =>
      Markup.segments (marked "eq // eq".toList (h.markings.take 2)) =
        ["".toList, "<span class='rcse-word' title='a word'>".toList, "eq".toList, "</span>".toList,
          " ".toList, "<span class='rcse-comment'>".toList] ++
            "// eq".toList :: ["</span>".toList, "".toList]) := by
    decide +kernel
  obtain ⟨h, hok, heq⟩ := Results.exists_of_any hsegments
  have heq := of_decide_eq_true heq
  have hapart : h.WordsApart := by
    intro n ws ha
    obtain rfl := Grammar.words_of_mem_sample hok ha
    decide +kernel
  have hfree : ∀ t ∈ (Grammar.sample ["eq"]).tokens, Markup.BracketFree t.keyword.toList := by
    unfold Markup.BracketFree
    decide +kernel
  have hclass : ∀ t ∈ (Grammar.sample ["eq"]).tokens,
      ¬ ClassName.OfComments ((Vocabulary.ofGrammar (.sample ["eq"])).classOf t.typeName) := by
    decide +kernel
  exact ⟨h, hok, hapart, heq,
    insideComment_iff (Grammar.spansOnly_sample _) hfree hok hapart hclass _ 2 heq⟩

end Highlighter

/-- Words of a type whose name has a quote behind the name of the type of comments. -/
def Grammar.quoted : Grammar where
  version := "1.0.0"
  description := none
  reference := none
  rules := [.keyword ⟨"outer", false, false,
      [⟨"zqy", "Comment'x", "a word"⟩, ⟨"q", "Word", "a word"⟩]⟩,
    .keyword ⟨"inner", false, false, [⟨"y", "Word", "a word"⟩]⟩]
  types := [⟨"Comment'x", "green", "Text", none, none⟩, ⟨"Word", "blue", "Text", none, none⟩]
  metadata := none

namespace Highlighter

/-- It is not enough that no word has the class of comments: the spans of a class that goes on behind
a quote are taken for comments too, and such a span may have the span of a later word in it. -/
theorem not_insideComment_iff :
    ¬ ∀ {g : Grammar} {h : Highlighter}, g.SpansOnly →
      (∀ t ∈ g.tokens, Markup.BracketFree t.keyword.toList) →
      ofVocabulary (.ofGrammar g) = .ok h → h.WordsApart →
      (∀ t ∈ g.tokens, (Vocabulary.ofGrammar g).classOf t.typeName ≠ "rcse-comment") →
      ∀ (text : List Char) (k : Nat) {before after : List (List Char)} {s : List Char},
        Markup.segments (marked text (h.markings.take k)) = before ++ s :: after →
        Markup.isTag s = false →
        (Markup.insideComment before = true ↔
          ∃ t ∈ Markup.openSpans (before.filter Markup.isTag), Markup.commentOpening <+: t) := by
  intro hall
  -- behind the span of `q` the nearest tag closes a span, but the one around it is still open
  have hsegments : (ofVocabulary (.ofGrammar .quoted)).toOption.any (fun h =>
      Markup.segments (marked "zqy".toList (h.markings.take 1)) =
        ["".toList, "<span class='rcse-comment'x' title='a word'>".toList, "z".toList,
          "<span class='rcse-word' title='a word'>".toList, "q".toList, "</span>".toList] ++
            "y".toList :: ["</span>".toList, "".toList]) := by
    decide +kernel
  obtain ⟨h, hok, heq⟩ := Results.exists_of_any hsegments
  have heq := of_decide_eq_true heq
  have hspans : Grammar.quoted.SpansOnly := by
    refine ⟨fun r hr => ?_, ?_, ?_⟩
    · simp [Grammar.quoted] at hr
    · unfold Markup.BracketFree
      decide +kernel
    · unfold Markup.BracketFree
      decide +kernel
  have hfree : ∀ t ∈ Grammar.quoted.tokens, Markup.BracketFree t.keyword.toList := by
    unfold Markup.BracketFree
    decide +kernel
  have hapart : h.WordsApart := by
    intro n ws ha
    obtain ⟨rule, hrule, rfl⟩ := words_of_mem hok ha
    simp only [Vocabulary.ofGrammar, Grammar.quoted, List.mem_cons, Rule.keyword.injEq,
      List.not_mem_nil, or_false] at hrule
    rcases hrule with rfl | rfl
    · decide +kernel
    · decide +kernel
  have hclass : ∀ t ∈ Grammar.quoted.tokens,
      (Vocabulary.ofGrammar .quoted).classOf t.typeName ≠ "rcse-comment" := by
    decide +kernel
  have hiff := hall hspans hfree hok hapart hclass "zqy".toList 1 heq (by decide)
  revert hiff
  decide

end Highlighter

end Annotator
