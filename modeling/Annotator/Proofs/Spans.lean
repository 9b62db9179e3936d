import Mathlib.Data.List.Induction
import Annotator.Highlighter
import Annotator.Proofs.CaseMaps
import Annotator.Proofs.Indices
import Annotator.Proofs.Results
import Annotator.Proofs.Segments

/-!
# Spans

A grammar whose pattern rules have no replacements marks a text by putting parts of it in spans. If
moreover no class and no meaning has an angle bracket, the tags that it puts are tags, whatever its
keywords and patterns are, and they leave a closed text closed.

## Key results

- `Grammar.SpansOnly.putsSpans`: the rules of such a grammar put spans
- `Marking.PutsSpans.closed_apply`: putting spans in a closed text makes a closed text
- `Highlighter.closed_marked`: every text between two rules is closed
-/

namespace Annotator

namespace Markup

/-- The opening tag of a span. -/
def IsOpening (text : List Char) : Prop :=
  ∃ inner, BracketFree inner ∧ text = "<span ".toList ++ inner ++ ['>']

theorem IsOpening.isTag {text : List Char} (h : IsOpening text) : IsTag text := by
  obtain ⟨inner, hinner, rfl⟩ := h
  refine ⟨"span ".toList ++ inner, by simp, ?_, by simp⟩
  simpa using hinner.2

theorem IsOpening.closed {text : List Char} (h : IsOpening text) : Closed text := by
  refine h.isTag.closed ?_
  obtain ⟨inner, hinner, rfl⟩ := h
  simpa using hinner.1

theorem isTag_closing : IsTag closing :=
  ⟨"/span".toList, by decide, by decide, by decide⟩

theorem closed_closing : Closed closing := isTag_closing.closed (by decide)

/-- A part of a text in a span. -/
def wrap (opening matched : List Char) : List Char := opening ++ matched ++ closing

/-- Putting hits in spans makes a closed text of a closed text, wherever the hits are. -/
theorem closed_replace_wrap {opening : List Char} (ho : IsOpening opening) {c : Cut}
    (h : Closed c.text) : Closed (c.replace fun matched _ => wrap opening matched) := by
  induction c with
  | rest t => exact h
  | hit b m g a ih =>
    rw [Cut.text_hit, List.append_assoc] at h
    have hm : Closed (m ++ a.text) := h.of_suffix (List.suffix_append b _)
    have ih := ih (hm.of_suffix (List.suffix_append m _))
    -- from the end: the closing tag, the hit, the opening tag, and the text before them
    have hclosing := closed_closing.append ih
    have hmatched := hm.exchange hclosing (by rfl)
    have hopening := ho.closed.append hmatched
    have hhead : opening.head? = some '<' := by
      obtain ⟨inner, _, rfl⟩ := ho
      rfl
    have := h.exchange hopening (by rw [List.head?_append, hhead]; rfl)
    simpa [Cut.replace, wrap] using this

end Markup

/-! ### Rules that put spans -/

namespace Replacement

/-- The opening tag of the spans of a class. -/
def opening (className : String) : List Char := ("<span class='" ++ className ++ "'>").toList

end Replacement

namespace Marking

/-- A rule that puts spans with proper opening tags. -/
def PutsSpans : Marking → Prop
  | words _ ws => ∀ w ∈ ws, Markup.IsOpening w.opening
  | pattern _ _ r =>
    ∃ className, r = .wrap className ∧ Markup.IsOpening (Replacement.opening className)

end Marking

theorem WordMarking.apply_eq (w : WordMarking) (text : List Char) :
    w.apply text = (w.keyword.search.cut text).replace fun m _ => Markup.wrap w.opening m := rfl

theorem Replacement.text_wrap (className : String) (m : Pattern.Matcher) :
    (wrap className).text m = fun matched _ => Markup.wrap (opening className) matched := rfl

/-- Putting a word in spans makes a closed text of a closed text. -/
theorem WordMarking.closed_apply {w : WordMarking} (hw : Markup.IsOpening w.opening)
    {text : List Char} (h : Markup.Closed text) : Markup.Closed (w.apply text) := by
  rw [apply_eq]
  exact Markup.closed_replace_wrap hw (by rwa [Search.text_cut])

/-- A rule that puts spans makes a closed text of a closed text. -/
theorem Marking.PutsSpans.closed_apply {a : Marking} (ha : a.PutsSpans) {text : List Char}
    (h : Markup.Closed text) : Markup.Closed (a.apply text) := by
  cases a with
  | words n ws =>
    have key : ∀ ws : List WordMarking, (∀ w ∈ ws, Markup.IsOpening w.opening) →
        ∀ t, Markup.Closed t → Markup.Closed (ws.foldl (fun t w => w.apply t) t) := by
      intro ws
      induction ws with
      | nil => exact fun _ t ht => ht
      | cons w ws ih =>
        intro hws t ht
        have ⟨hw, hws⟩ := List.forall_mem_cons.mp hws
        exact ih hws _ (WordMarking.closed_apply hw ht)
    exact key ws ha text h
  | pattern n m r =>
    obtain ⟨className, rfl, ho⟩ := ha
    rw [apply, Replacement.text_wrap]
    exact Markup.closed_replace_wrap ho (by rwa [Search.text_cut])

namespace WordMarking

/-- A word that finds nothing in the tags of another word. -/
structure Misses (w e : WordMarking) : Prop where
  opening : w.keyword.search none e.opening = none
  closing : w.keyword.search none Markup.closing = none

instance (w e : WordMarking) : Decidable (w.Misses e) :=
  decidable_of_iff (w.keyword.search none e.opening = none ∧
    w.keyword.search none Markup.closing = none) ⟨fun h => ⟨h.1, h.2⟩, fun h => ⟨h.1, h.2⟩⟩

/-- The tags of some words. -/
def TagOf (words : List WordMarking) (t : List Char) : Prop :=
  ∃ e ∈ words, t = e.opening ∨ t = Markup.closing

theorem TagOf.mono {words words' : List WordMarking} (h : words ⊆ words') {t : List Char}
    (ht : TagOf words t) : TagOf words' t := by
  obtain ⟨e, he, ht⟩ := ht
  exact ⟨e, h he, ht⟩

end WordMarking

/-! ### Grammars whose rules put spans -/

/-- A grammar whose rules put spans: no pattern rule has a replacement, and no class and no meaning
has an angle bracket. -/
structure Grammar.SpansOnly (g : Grammar) : Prop where
  patterns : ∀ r, Rule.pattern r ∈ g.rules → r.replacement = none ∨ r.replacement = some ""
  classes : ∀ s ∈ g.types, Markup.BracketFree s.className.toList
  meanings : ∀ t ∈ g.tokens, Markup.BracketFree t.description.toList

/-- Among letters and hyphens there is no mark but the hyphen. -/
private theorem not_mem_of_letters {d : Char} (hd : Text.IsMark d) (hne : d ≠ '-')
    {text : List Char} (h : (text.all fun c => c == '-' || 65 ≤ c.toNat) = true) : d ∉ text := by
  intro hmem
  rcases (Bool.or_eq_true _ _).mp (List.all_eq_true.mp h d hmem) with heq | hle
  · exact hne (beq_iff_eq.mp heq)
  · exact absurd hd.2 (Nat.not_lt.mpr (of_decide_eq_true hle))

/-- A mark that is in the name of no type is in no display class. -/
theorem Vocabulary.not_mem_classOf {g : Grammar} {d : Char} (hd : Text.IsMark d) (hne : d ≠ '-')
    (h : ∀ s ∈ g.types, d ∉ s.className.toList) (typeName : String) :
    d ∉ ((ofGrammar g).classOf typeName).toList := by
  rcases classOf_cases g typeName with heq | ⟨s, hs, heq⟩
  · rw [heq]
    exact not_mem_of_letters hd hne (by decide)
  · rw [heq, ClassName.ofType, ClassName.kebabString, String.toList_append, String.toList_ofList,
      List.mem_append, not_or]
    exact ⟨not_mem_of_letters hd hne (by decide),
      fun hk => h s hs (ClassName.mem_of_mem_kebab hd hne hk)⟩

theorem Grammar.SpansOnly.bracketFree_classOf {g : Grammar} (hg : g.SpansOnly)
    (typeName : String) : Markup.BracketFree ((Vocabulary.ofGrammar g).classOf typeName).toList :=
  ⟨Vocabulary.not_mem_classOf (by decide) (by decide) (fun s hs => (hg.classes s hs).1) typeName,
    Vocabulary.not_mem_classOf (by decide) (by decide) (fun s hs => (hg.classes s hs).2) typeName⟩

theorem Replacement.isOpening_opening {className : String}
    (h : Markup.BracketFree className.toList) : Markup.IsOpening (opening className) := by
  refine ⟨"class='".toList ++ className.toList ++ ['\''], ?_, ?_⟩
  · rw [Markup.bracketFree_append, Markup.bracketFree_append]
    exact ⟨⟨⟨by decide, by decide⟩, h⟩, by decide, by decide⟩
  · simp [opening]

theorem WordMarking.isOpening_opening {w : WordMarking} (hc : Markup.BracketFree w.className.toList)
    (hd : Markup.BracketFree w.description.toList) : Markup.IsOpening w.opening := by
  refine ⟨"class='".toList ++ w.className.toList ++ "' title='".toList ++ w.description.toList ++
    ['\''], ?_, ?_⟩
  · simp only [Markup.bracketFree_append]
    exact ⟨⟨⟨⟨⟨by decide, by decide⟩, hc⟩, by decide, by decide⟩, hd⟩, by decide, by decide⟩
  · simp [opening]

/-! ### The rules of a highlighter -/

/-- The marking of a word of a rule, whether or not the word can be searched for. -/
def WordMarking.standard (v : Vocabulary) (rule : KeywordRule) (token : Token) : WordMarking :=
  ⟨keywordOf rule token, v.classOf token.typeName, token.description⟩

theorem WordMarking.ofToken_eq_ok {v : Vocabulary} {rule : KeywordRule} {token : Token}
    {w : WordMarking} (h : ofToken v rule token = .ok w) : w = standard v rule token := by
  unfold ofToken at h
  simp only at h
  split at h
  · exact (Except.ok.inj h).symm
  · cases h

/-- The words of a keyword rule that is ready are its tokens, in order. -/
theorem Marking.ofKeywordRule_eq_ok {v : Vocabulary} {rule : KeywordRule} {a : Marking}
    (h : ofKeywordRule v rule = .ok a) :
    a = words rule.name (rule.tokens.map (WordMarking.standard v rule)) := by
  obtain ⟨ws, hws, rfl⟩ := Results.map_eq_ok.mp h
  rw [Results.mapM_eq_map WordMarking.ofToken_eq_ok hws]

namespace Highlighter

variable {v : Vocabulary} {h : Highlighter}

/-- Each rule of a highlighter comes from a rule of the grammar. -/
theorem ofRule_of_mem (hok : ofVocabulary v = .ok h) {a : Marking} (ha : a ∈ h.markings) :
    ∃ rule ∈ v.grammar.rules, Marking.ofRule v rule = .ok (some a) := by
  obtain ⟨as, has, rfl⟩ := Results.map_eq_ok.mp hok
  exact Results.exists_of_mem_mapM has (by simpa using ha)

/-- The words of a highlighter's rule are the tokens of a keyword rule of the grammar. -/
theorem words_of_mem (hok : ofVocabulary v = .ok h) {n : String} {ws : List WordMarking}
    (ha : Marking.words n ws ∈ h.markings) :
    ∃ rule, Rule.keyword rule ∈ v.grammar.rules ∧
      ws = rule.tokens.map (WordMarking.standard v rule) := by
  obtain ⟨rule, hrule, hmark⟩ := ofRule_of_mem hok ha
  cases rule with
  | keyword r =>
    obtain ⟨b, hb, hsome⟩ := Results.map_eq_ok.mp hmark
    obtain rfl := Option.some.inj hsome
    have := Marking.ofKeywordRule_eq_ok hb
    simp only [Marking.words.injEq] at this
    exact ⟨r, hrule, this.2⟩
  | pattern r =>
    obtain ⟨b, hb, hsome⟩ := Results.map_eq_ok.mp hmark
    obtain rfl := Option.some.inj hsome
    unfold Marking.ofPatternRule at hb
    split at hb <;> cases hb
  | other _ => cases hmark

/-- The pattern of a highlighter's rule is that of a pattern rule of the grammar. -/
theorem pattern_of_mem (hok : ofVocabulary v = .ok h) {n : String} {m : Pattern.Matcher}
    {r : Replacement} (ha : Marking.pattern n m r ∈ h.markings) :
    ∃ rule, Rule.pattern rule ∈ v.grammar.rules ∧ Pattern.Matcher.ofPattern? rule.pattern = some m ∧
      r = Replacement.ofRule v m rule := by
  obtain ⟨rule, hrule, hmark⟩ := ofRule_of_mem hok ha
  cases rule with
  | keyword r =>
    obtain ⟨b, hb, hsome⟩ := Results.map_eq_ok.mp hmark
    obtain rfl := Option.some.inj hsome
    cases Marking.ofKeywordRule_eq_ok hb
  | pattern r =>
    obtain ⟨b, hb, hsome⟩ := Results.map_eq_ok.mp hmark
    obtain rfl := Option.some.inj hsome
    unfold Marking.ofPatternRule at hb
    split at hb
    · cases hb
    · rename_i hm
      obtain ⟨-, rfl, rfl⟩ : _ ∧ _ ∧ _ := by simpa using Except.ok.inj hb
      exact ⟨r, hrule, hm, rfl⟩
  | other _ => cases hmark

end Highlighter

/-- Without a replacement, a pattern rule puts spans with a display class. -/
theorem Replacement.ofRule_eq_wrap (v : Vocabulary) (m : Pattern.Matcher) {rule : PatternRule}
    (h : rule.replacement = none ∨ rule.replacement = some "") :
    ofRule v m rule = wrap ClassName.unknown ∨
      ∃ typeName, ofRule v m rule = wrap (v.classOf typeName) := by
  have hgiven : given rule.replacement = none := by rcases h with h | h <;> rw [h] <;> rfl
  unfold ofRule
  rw [hgiven]
  cases given rule.typeName with
  | none => exact .inl rfl
  | some typeName => exact .inr ⟨typeName, rfl⟩

namespace Grammar.SpansOnly

variable {g : Grammar} {h : Highlighter}

/-- The rules of a grammar that puts nothing but spans put spans. -/
theorem putsSpans (hg : g.SpansOnly) (hok : Highlighter.ofVocabulary (.ofGrammar g) = .ok h) :
    ∀ a ∈ h.markings, a.PutsSpans := by
  intro a ha
  cases a with
  | words n ws =>
    obtain ⟨rule, hrule, rfl⟩ := Highlighter.words_of_mem hok ha
    rw [Marking.PutsSpans, List.forall_mem_map]
    intro token htoken
    have hmem : token ∈ g.tokens := List.mem_flatMap.mpr ⟨_, hrule, htoken⟩
    exact WordMarking.isOpening_opening (hg.bracketFree_classOf _) (hg.meanings token hmem)
  | pattern n m r =>
    obtain ⟨rule, hrule, _, rfl⟩ := Highlighter.pattern_of_mem hok ha
    rcases Replacement.ofRule_eq_wrap (.ofGrammar g) m (hg.patterns rule hrule) with h | ⟨t, h⟩
    · exact ⟨_, h, Replacement.isOpening_opening ⟨by decide, by decide⟩⟩
    · exact ⟨_, h, Replacement.isOpening_opening (hg.bracketFree_classOf t)⟩

end Grammar.SpansOnly

/-! ### A grammar to try words in -/

namespace Grammar

/-- A rule for comments, and after it one for some words wherever they stand. -/
def sample (words : List String) : Grammar where
  version := "1.0.0"
  description := none
  reference := none
  rules := [.pattern ⟨"comments", "//.*", some "Comment", none⟩,
    .keyword ⟨"words", false, false, words.map fun w => ⟨w, "Word", "a word"⟩⟩]
  types := [⟨"Comment", "green", "Text", none, none⟩, ⟨"Word", "blue", "Text", none, none⟩]
  metadata := none

theorem spansOnly_sample (words : List String) : (sample words).SpansOnly where
  patterns r hr := by
    simp only [sample, List.mem_cons, Rule.pattern.injEq, reduceCtorEq, List.not_mem_nil,
      or_false] at hr
    exact .inl (hr ▸ rfl)
  classes s hs := by
    simp only [sample, List.mem_cons, List.not_mem_nil, or_false] at hs
    rcases hs with rfl | rfl
    · exact ⟨by decide, by decide⟩
    · exact ⟨by decide, by decide⟩
  meanings t ht := by
    obtain ⟨w, _, rfl⟩ : ∃ w ∈ words, (⟨w, "Word", "a word"⟩ : Token) = t := by
      simpa [sample, tokens, Rule.tokens] using ht
    have hfree : Markup.BracketFree "a word".toList := ⟨by decide, by decide⟩
    exact hfree

/-- The words of the sample's keyword rule. -/
theorem words_of_mem_sample {words : List String} {h : Highlighter}
    (hok : Highlighter.ofVocabulary (.ofGrammar (sample words)) = .ok h) {n : String}
    {ws : List WordMarking} (ha : Marking.words n ws ∈ h.markings) :
    ws = words.map fun w => ⟨⟨w.toList, false, false⟩, "rcse-word", "a word"⟩ := by
  obtain ⟨rule, hrule, rfl⟩ := Highlighter.words_of_mem hok ha
  have hclass : (Vocabulary.ofGrammar (sample words)).classOf "Word" = "rcse-word" := by
    -- the classes do not depend on the words
    have hwords : (Vocabulary.ofGrammar (sample words)).classOf "Word" =
        (Vocabulary.ofGrammar (sample [])).classOf "Word" := rfl
    rw [hwords]
    decide +kernel
  obtain rfl : rule = ⟨"words", false, false, words.map fun w => ⟨w, "Word", "a word"⟩⟩ := by
    simpa [sample, Vocabulary.ofGrammar] using hrule
  simp [WordMarking.standard, WordMarking.keywordOf, hclass]

/-- A rule for each of some words. -/
def inTurn (bounded : Bool) (tokens : List Token) : Grammar where
  version := "1.0.0"
  description := none
  reference := none
  rules := tokens.map fun t => .keyword ⟨t.keyword, false, bounded, [t]⟩
  types := [⟨"Word", "blue", "Text", none, none⟩]
  metadata := none

end Grammar

/-! ### The texts between the rules -/

theorem Markup.bracketFree_escape (text : List Char) : BracketFree (escape text) := by
  have key (c : Char) : BracketFree (escapeChar c) := by
    unfold escapeChar
    split
    · exact ⟨by decide, by decide⟩
    · exact ⟨by decide, by decide⟩
    · exact ⟨by decide, by decide⟩
    · exact ⟨by decide, by decide⟩
    · rename_i hlt hgt _
      exact ⟨fun h => hlt (List.mem_singleton.mp h).symm, fun h => hgt (List.mem_singleton.mp h).symm⟩
  constructor
  · intro h
    obtain ⟨c, _, hc⟩ := List.mem_flatMap.mp h
    exact (key c).1 hc
  · intro h
    obtain ⟨c, _, hc⟩ := List.mem_flatMap.mp h
    exact (key c).2 hc

namespace Highlighter

/-- The text after some rules. -/
def marked (text : List Char) (markings : List Marking) : List Char :=
  markings.foldl applyRule (Markup.escape text)

/-- The markup of a text is the text after all rules; for no text there is none. -/
theorem highlight_eq (h : Highlighter) (text : List Char) :
    h.highlight text = if text = [] then [] else marked text h.markings := rfl

theorem marked_concat (text : List Char) (markings : List Marking) (a : Marking) :
    marked text (markings ++ [a]) = Markup.mapPlain a.apply (marked text markings) := by
  simp [marked, applyRule]

/-- Every text between two rules that put spans is closed. -/
theorem closed_marked (text : List Char) {markings : List Marking}
    (h : ∀ a ∈ markings, a.PutsSpans) : Markup.Closed (marked text markings) := by
  induction markings using List.reverseRecOn with
  | nil => exact (Markup.bracketFree_escape text).closed
  | append_singleton markings a ih =>
    rw [marked_concat]
    have ih := ih fun b hb => h b (List.mem_append_left _ hb)
    have ha := h a (List.mem_append_right _ List.mem_cons_self)
    exact (Markup.cut_mapPlain (fun s hs => ha.closed_apply (Markup.closed_of_not_mem hs)) ih).1

end Highlighter

end Annotator
