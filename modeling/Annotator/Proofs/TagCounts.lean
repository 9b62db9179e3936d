import Mathlib.Algebra.GroupWithZero.Nat
import Mathlib.Data.List.TakeWhile
import Annotator.Proofs.Occurrences

/-!
# How often a tag occurs

A tag ends at its first closing bracket, so wherever it occurs in a text it lies in one hit of the
search for tags, however the text goes on. Rules change what lies between those hits and nothing
else. So no rule takes away an occurrence of a tag, whatever its words and patterns find.

The opening tag of a word is a tag unless its class or its meaning has a closing bracket. Such a
bracket ends the tag too early, and the rest of it is plain text to the next rule.

## Key results

- `Markup.IsTag.occurrences_eq_sum_tags`: a tag occurs in the tags of a text, and nowhere else
- `Highlighter.occurrences_le_marked_append`: a tag occurs at least as often after more rules
- `Highlighter.occurrences_opening_le_succ`: so do the opening tags that words put
-/

namespace Annotator

namespace Markup

variable {t : List Char}

/-! ### Occurrences in a composed text -/

/-- What occurs in the parts of a text occurs in the text. -/
theorem occurrences_add_le_append (word a b : List Char) :
    occurrences word a + occurrences word b ≤ occurrences word (a ++ b) := by
  induction a with
  | nil => simp [occurrences]
  | cons c a ih =>
    have hfront : (if word <+: c :: a then 1 else 0) ≤ if word <+: c :: (a ++ b) then 1 else 0 := by
      by_cases h : word <+: c :: a
      · have h' : word <+: c :: (a ++ b) := h.trans (List.prefix_append (c :: a) b)
        rw [if_pos h, if_pos h']
      · rw [if_neg h]
        exact Nat.zero_le _
    simp only [List.cons_append, occurrences]
    omega

/-- No tag reaches over the end of a tag. -/
private theorem IsTag.occurrences_tag_append (ht : IsTag t) (inner b : List Char) :
    occurrences t ('<' :: (inner ++ ['>']) ++ b) =
      occurrences t ('<' :: (inner ++ ['>'])) + occurrences t b := by
  obtain ⟨own, _, hown, rfl⟩ := ht
  refine occurrences_append_of_not_crossing fun s z hs hne hz _ heq => ?_
  -- a part that crosses the end has a closing bracket that is not its last character
  have hlast : s.getLast? = some '>' := by
    obtain ⟨r, hr⟩ := hs
    have h : (r ++ s).getLast? = some '>' := by
      rw [hr, ← List.cons_append, List.getLast?_concat]
    rwa [List.getLast?_append_of_ne_nil _ hne] at h
  have hmem : '>' ∈ ('<' :: (own ++ ['>'])).dropLast := by
    rw [heq, List.dropLast_append_of_ne_nil hz]
    exact List.mem_append_left _ (List.mem_of_getLast? hlast)
  have hdrop : ('<' :: (own ++ ['>'])).dropLast = '<' :: own := by
    rw [← List.cons_append, List.dropLast_concat]
  rw [hdrop] at hmem
  simp [hown] at hmem

/-- A tag occurs in the tags of a text, and nowhere else. -/
theorem IsTag.occurrences_eq_sum_tags (ht : IsTag t) (text : List Char) :
    occurrences t text = ((Markup.tags text).map (occurrences t)).sum := by
  rw [Markup.tags, tag, Search.cut_ofFront]
  -- along the cut, after whatever character it is resumed
  generalize (none : Option Char) = prev
  induction prev, text using Search.scan_induction tagFront_proper with
  | nil prev =>
    rw [Search.scan_nil tagFront_proper]
    rfl
  | hit prev text n hn ih =>
    rw [Search.scan_of_some tagFront_proper hn, Cut.hits, List.map_cons, List.sum_cons, ← ih]
    obtain ⟨inner, after, _, _, rfl, rfl⟩ := exists_of_tagFront hn
    have htake : ('<' :: (inner ++ '>' :: after)).take (inner.length + 2) =
        '<' :: (inner ++ ['>']) := by
      simp [List.take_append, List.take_of_length_le]
    have hdrop : ('<' :: (inner ++ '>' :: after)).drop (inner.length + 2) = after := by
      simp [List.drop_append]
    have happ : '<' :: (inner ++ '>' :: after) = '<' :: (inner ++ ['>']) ++ after := by simp
    rw [htake, hdrop, happ]
    exact ht.occurrences_tag_append inner after
  | step prev c text hn ih =>
    -- where the tag occurs, the search for tags finds something
    have hnot : ¬ t <+: c :: text := by
      intro hpre
      obtain ⟨inner, hne, hinner, rfl⟩ := ht
      obtain ⟨after, hafter⟩ := hpre
      rw [← hafter, List.cons_append, List.append_assoc, List.singleton_append,
        tagFront_tag prev after hne hinner] at hn
      cases hn
    rw [Search.scan_of_none tagFront_proper hn, Cut.hits_prepend, ← ih, occurrences, if_neg hnot,
      Nat.zero_add]

/-! ### Changing plain segments -/

/-- Changing plain segments keeps what occurs in the tags between them. -/
private theorem sum_hits_le_occurrences_mapSegments (word : List Char)
    (f : List Char → List Char) (c : Cut) (was : Bool) (hc : ∀ m ∈ c.hits, isTag m = true) :
    (c.hits.map (occurrences word)).sum ≤ occurrences word (mapSegments f was c.segments) := by
  induction c generalizing was with
  | rest s => exact Nat.zero_le _
  | hit b m g a ih =>
    rw [Cut.hits, List.forall_mem_cons] at hc
    have ih := ih (commentAfter (commentAfter was b) m) hc.2
    simp only [Cut.hits, List.map_cons, List.sum_cons, Cut.segments, mapSegments, hc.1,
      Bool.true_or, if_true]
    have hplain := occurrences_add_le_append word (if isTag b || was then b else f b)
      (m ++ mapSegments f (commentAfter (commentAfter was b) m) a.segments)
    have htag := occurrences_add_le_append word m
      (mapSegments f (commentAfter (commentAfter was b) m) a.segments)
    omega

/-- A tag occurs at least as often after the plain segments of a text have been changed. -/
theorem IsTag.occurrences_le_mapPlain (ht : IsTag t) (f : List Char → List Char)
    (text : List Char) : occurrences t text ≤ occurrences t (mapPlain f text) := by
  rw [ht.occurrences_eq_sum_tags text]
  exact sum_hits_le_occurrences_mapSegments t f (tag.cut text) false fun m hm =>
    (isTag_of_mem_tags hm).isTag

end Markup

/-! ### The rules of a highlighter -/

/-- The opening tag of a word is a tag if neither its class nor its meaning closes it too early. -/
theorem WordMarking.isTag_opening {w : WordMarking} (hc : '>' ∉ w.className.toList)
    (hd : '>' ∉ w.description.toList) : Markup.IsTag w.opening := by
  refine ⟨"span class='".toList ++ w.className.toList ++ "' title='".toList ++
    w.description.toList ++ ['\''], by simp, ?_, by simp [opening]⟩
  simp only [List.mem_append, not_or]
  exact ⟨⟨⟨⟨by decide, hc⟩, by decide⟩, hd⟩, by decide⟩

/-- The words that a rule marks. -/
def Marking.wordMarkings : Marking → List WordMarking
  | words _ ws => ws
  | pattern _ _ _ => []

theorem Marking.exists_of_mem_wordMarkings {a : Marking} {w : WordMarking}
    (h : w ∈ a.wordMarkings) : ∃ n ws, a = words n ws ∧ w ∈ ws := by
  cases a with
  | words n ws => exact ⟨n, ws, rfl, h⟩
  | pattern _ _ _ => cases h

namespace Highlighter

/-- A tag occurs at least as often after one more rule. -/
theorem occurrences_le_applyRule {t : List Char} (ht : Markup.IsTag t) (text : List Char)
    (a : Marking) : Markup.occurrences t text ≤ Markup.occurrences t (applyRule text a) :=
  ht.occurrences_le_mapPlain a.apply text

/-- A tag occurs at least as often after more rules. -/
theorem occurrences_le_marked_append {t : List Char} (ht : Markup.IsTag t) (text : List Char)
    (markings later : List Marking) :
    Markup.occurrences t (marked text markings) ≤
      Markup.occurrences t (marked text (markings ++ later)) := by
  induction later using List.reverseRecOn with
  | nil => rw [List.append_nil]
  | append_singleton later a ih =>
    rw [← List.append_assoc, marked_concat]
    exact ih.trans (occurrences_le_applyRule ht _ a)

/-- The opening tag that a word puts occurs at least as often after one more rule, if neither the
class nor the meaning of the word has a closing bracket. -/
theorem occurrences_opening_le_succ (h : Highlighter) (text : List Char) (k : Nat) {w : WordMarking}
    (hc : '>' ∉ w.className.toList) (hd : '>' ∉ w.description.toList) :
    Markup.occurrences w.opening (marked text (h.markings.take k)) ≤
      Markup.occurrences w.opening (marked text (h.markings.take (k + 1))) := by
  have htag := WordMarking.isTag_opening hc hd
  rw [List.take_add_one]
  exact occurrences_le_marked_append htag text _ _

/-- A parenthesis in the meaning of a word, and a later rule for parentheses. -/
theorem occurrences_opening_le_succ_gt :
    ∃ (h : Highlighter) (w : WordMarking),
      ofVocabulary (.ofGrammar (.inTurn false [⟨"gt", "Word", "greater (than)"⟩,
        ⟨")", "Word", "a parenthesis"⟩])) = .ok h ∧
      w.description = "greater (than)" ∧
      Markup.occurrences w.opening (marked "a gt b gt (c)".toList (h.markings.take 1)) = 2 ∧
      2 ≤ Markup.occurrences w.opening (marked "a gt b gt (c)".toList (h.markings.take 2)) := by
  let w : WordMarking := ⟨⟨"gt".toList, false, false⟩, "rcse-word", "greater (than)"⟩
  have htwice : (ofVocabulary (.ofGrammar (.inTurn false [⟨"gt", "Word", "greater (than)"⟩,
      ⟨")", "Word", "a parenthesis"⟩]))).toOption.any fun h =>
        Markup.occurrences w.opening (marked "a gt b gt (c)".toList (h.markings.take 1)) = 2 := by
    decide +kernel
  obtain ⟨h, hok, htwice⟩ := Results.exists_of_any htwice
  have htwice := of_decide_eq_true htwice
  have hle := occurrences_opening_le_succ h "a gt b gt (c)".toList 1 (w := w) (by decide) (by decide)
  exact ⟨h, w, hok, rfl, htwice, htwice.ge.trans hle⟩

/-- A closing bracket in the meaning of a word ends its tag, and what follows the bracket is no
longer safe from the next rule. -/
theorem exists_occurrences_opening_lt :
    ∃ (g : Grammar) (h : Highlighter) (text : List Char) (k : Nat) (n : String)
      (ws : List WordMarking) (w : WordMarking),
      (∀ r, Rule.pattern r ∈ g.rules → r.replacement = none ∨ r.replacement = some "") ∧
      ofVocabulary (.ofGrammar g) = .ok h ∧ Marking.words n ws ∈ h.markings.take k ∧ w ∈ ws ∧
      Markup.occurrences w.opening (marked text (h.markings.take (k + 1))) <
        Markup.occurrences w.opening (marked text (h.markings.take k)) := by
  have hlost : (ofVocabulary (.ofGrammar (.inTurn false [⟨"gt", "Word", "Greater than (>)"⟩,
      ⟨")", "Word", "a parenthesis"⟩]))).toOption.any fun h =>
        ((h.markings.take 1).flatMap Marking.wordMarkings).any fun w =>
          Markup.occurrences w.opening (marked "gt".toList (h.markings.take 2)) <
            Markup.occurrences w.opening (marked "gt".toList (h.markings.take 1)) := by
    decide +kernel
  obtain ⟨h, hok, hlost⟩ := Results.exists_of_any hlost
  obtain ⟨w, hw, hlost⟩ := List.any_eq_true.mp hlost
  obtain ⟨a, ha, hw⟩ := List.mem_flatMap.mp hw
  obtain ⟨n, ws, rfl, hw⟩ := Marking.exists_of_mem_wordMarkings hw
  have hpatterns : ∀ r, Rule.pattern r ∈ (Grammar.inTurn false
      [⟨"gt", "Word", "Greater than (>)"⟩, ⟨")", "Word", "a parenthesis"⟩]).rules →
        r.replacement = none ∨ r.replacement = some "" := by
    intro r hr
    simp [Grammar.inTurn] at hr
  exact ⟨_, h, _, 1, n, ws, w, hpatterns, hok, ha, hw, of_decide_eq_true hlost⟩

end Highlighter

end Annotator
