import Annotator.Proofs.Spans

/-!
# Comments are left alone

The comments of a text are the tags that open a comment, each with the plain segment behind it. A rule
that changes plain segments outside comments keeps all of them, in order: its own tags may add
comments, but none is lost or changed. So whatever rules do to each other's markup, the comments after
some rules are still there after all later ones.

## Key results

- `Markup.comments_mapPlain`: the comments of a closed text are still there after a rule
- `Highlighter.comments_sublist_comments`: the comments after some rules are there after more rules
-/

namespace Annotator

namespace Markup

/-- The comments among plain segments and tags that come by turns: each tag that opens a comment,
with the plain segment right behind it. -/
def commentsOf : List (List Char) → List (List Char × List Char)
  | _ :: t :: p :: later =>
    if commentOpening.isPrefixOf t then (t, p) :: commentsOf (p :: later)
    else commentsOf (p :: later)
  | _ => []

/-- The comments of a text. -/
def comments (text : List Char) : List (List Char × List Char) := commentsOf (segments text)

/-! ### Comments of a cut -/

theorem segments_eq_cons (c : Cut) : ∃ later, c.segments = c.first :: later := by
  cases c with
  | rest t => exact ⟨[], rfl⟩
  | hit b m g a => exact ⟨_, rfl⟩

@[simp] theorem commentsOf_rest (t : List Char) : commentsOf (Cut.rest t).segments = [] := rfl

theorem commentsOf_hit (b m : List Char) (g : List (Option (List Char))) (a : Cut) :
    commentsOf (Cut.hit b m g a).segments =
      if commentOpening.isPrefixOf m then (m, a.first) :: commentsOf a.segments
      else commentsOf a.segments := by
  obtain ⟨later, hlater⟩ := segments_eq_cons a
  rw [Cut.segments, hlater, commentsOf]

/-- What stands before the first tag belongs to no comment. -/
theorem commentsOf_prepend (t : List Char) (c : Cut) :
    commentsOf (c.prepend t).segments = commentsOf c.segments := by
  cases c with
  | rest s => rfl
  | hit b m g a => rw [Cut.prepend, commentsOf_hit, commentsOf_hit]

/-- The comments of two cuts, one behind the other, of which the second begins with a tag. -/
theorem commentsOf_append (c : Cut) {d : Cut} (hd : d.first = []) :
    commentsOf (c.append d).segments = commentsOf c.segments ++ commentsOf d.segments := by
  induction c with
  | rest t => rw [Cut.append, commentsOf_prepend, commentsOf_rest, List.nil_append]
  | hit b m g a ih =>
    rw [Cut.append, commentsOf_hit, commentsOf_hit, Cut.first_append_of_nil hd, ih]
    split
    · rfl
    · rfl

/-! ### Comments after a rule -/

/-- A tag that opens a comment does so whatever was open before. -/
theorem commentAfter_of_opening {m : List Char} (htag : IsTag m)
    (hm : commentOpening.isPrefixOf m = true) (was : Bool) : commentAfter was m = true := by
  have hne : (m == closing) = false := by
    rw [beq_eq_false_iff_ne]
    intro heq
    subst heq
    revert hm
    decide
  simp [commentAfter, htag.isTag, hne, hm]

/-- In a comment the text up to the next tag is not changed. -/
theorem first_mapCut_of_comment (f : List Char → List Char) (c : Cut) :
    (mapCut f true c).first = c.first := by
  cases c with
  | rest t => rfl
  | hit b m g a => simp [mapCut, Cut.append, Cut.prepend, Cut.first]

/-- Changing plain segments outside comments keeps the comments of a cut. -/
theorem commentsOf_mapCut (f : List Char → List Char) {c : Cut} (hc : Segmented c) (was : Bool) :
    (commentsOf c.segments).Sublist (commentsOf (mapCut f was c).segments) := by
  induction hc generalizing was with
  | rest _ => exact List.nil_sublist _
  | @hit b m a _ htag _ _ ih =>
    rw [mapCut, commentsOf_append _ rfl]
    -- what becomes of the segment before the tag can only add comments
    refine List.Sublist.trans ?_ (List.sublist_append_right _ _)
    rw [commentsOf_hit, commentsOf_hit]
    split
    · rename_i hm
      rw [commentAfter_of_opening htag hm, first_mapCut_of_comment]
      exact (ih true).cons_cons _
    · exact ih _

/-- Changing plain segments outside comments keeps the comments of a closed text. -/
theorem comments_mapPlain {f : List Char → List Char} (hf : ∀ s, '<' ∉ s → Closed (f s))
    {text : List Char} (h : Closed text) :
    (comments text).Sublist (comments (mapPlain f text)) := by
  rw [comments, comments, segments, segments, (cut_mapPlain hf h).2]
  exact commentsOf_mapCut f (segmented_cut h) false

end Markup

namespace Highlighter

/-- One more rule keeps the comments. -/
theorem comments_marked_concat (text : List Char) {markings : List Marking} {a : Marking}
    (h : ∀ b ∈ markings ++ [a], b.PutsSpans) :
    (Markup.comments (marked text markings)).Sublist
      (Markup.comments (marked text (markings ++ [a]))) := by
  have ha := h a (List.mem_append_right _ List.mem_cons_self)
  rw [marked_concat]
  exact Markup.comments_mapPlain (fun s hs => ha.closed_apply (Markup.closed_of_not_mem hs))
    (closed_marked text fun b hb => h b (List.mem_append_left _ hb))

/-- More rules keep the comments. -/
theorem comments_marked_append (text : List Char) {markings later : List Marking}
    (h : ∀ b ∈ markings ++ later, b.PutsSpans) :
    (Markup.comments (marked text markings)).Sublist
      (Markup.comments (marked text (markings ++ later))) := by
  induction later using List.reverseRecOn with
  | nil => rw [List.append_nil]
  | append_singleton later a ih =>
    rw [← List.append_assoc] at h ⊢
    exact (ih fun b hb => h b (List.mem_append_left _ hb)).trans (comments_marked_concat text h)

/-- The comments after some rules of a grammar that puts nothing but spans are, in order, among the
comments after more of its rules: no later rule changes the opening tag of a comment or the text
behind it up to the next tag. -/
theorem comments_sublist_comments {g : Grammar} {h : Highlighter} (hg : g.SpansOnly)
    (hok : ofVocabulary (.ofGrammar g) = .ok h) (text : List Char) {i j : Nat} (hij : i ≤ j) :
    (Markup.comments (marked text (h.markings.take i))).Sublist
      (Markup.comments (marked text (h.markings.take j))) := by
  obtain ⟨k, rfl⟩ := Nat.exists_eq_add_of_le hij
  have hspans : ∀ b ∈ h.markings.take (i + k), b.PutsSpans :=
    fun b hb => hg.putsSpans hok b (List.mem_of_mem_take hb)
  rw [List.take_add] at hspans ⊢
  exact comments_marked_append text hspans

/-- A comment keeps its place while words break the tags of words around it. -/
theorem comments_sublist_comments_sample :
    ∃ h, ofVocabulary (.ofGrammar (.sample ["a", "span", "/"])) = .ok h ∧
      Markup.comments (marked "a // a".toList (h.markings.take 1)) =
        [("<span class='rcse-comment'>".toList, "// a".toList)] ∧
      (Markup.comments (marked "a // a".toList (h.markings.take 1))).Sublist
        (Markup.comments (marked "a // a".toList (h.markings.take 2))) := by
  have hcomments : (ofVocabulary (.ofGrammar (.sample ["a", "span", "/"]))).toOption.any
      (fun h => Markup.comments (marked "a // a".toList (h.markings.take 1)) =
        [("<span class='rcse-comment'>".toList, "// a".toList)]) := by
    decide +kernel
  obtain ⟨h, hok, heq⟩ := Results.exists_of_any hcomments
  exact ⟨h, hok, of_decide_eq_true heq,
    comments_sublist_comments (Grammar.spansOnly_sample _) hok _ (by decide)⟩

end Highlighter

end Annotator
