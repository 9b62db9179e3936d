import Mathlib.Data.List.Nodup
import Annotator.Proofs.Spans
import Annotator.Proofs.WordRuns

/-!
# Words in a single pass

The words of a rule are put in spans one after the other, each over what the ones before it left. Where
the words are made of word characters and no word is found in the tags of another, this is the same as
one pass over the text, in which each run of word characters that is some word is put in the span of that
word. So it does not matter in which order the words come.

## Key results

- `WordMarking.foldl_apply_eq`: words are put in spans run by run
- `Marking.apply_eq_onePass`: the words of a rule in one pass, in any order
-/

namespace Annotator

open Spacing (Spelled Usual)
open Text (IsRun isWord)

/-! ### One word -/

namespace WordMarking

/-- A word that is bounded and made of word characters. -/
structure IsPlain (w : WordMarking) : Prop where
  bounded : w.keyword.bounded = true
  run : IsRun w.keyword.text

/-- An ASCII character that is none of words is foreign to a plain word. -/
theorem IsPlain.foreign {w : WordMarking} (hw : w.IsPlain) {d : Char} (hd : isWord d = false)
    (hascii : d.toNat < 128) : w.keyword.Foreign d := by
  have hne {e : Char} (he : 128 ≤ e.toNat) : e ∉ [d] := by
    intro h
    rw [List.mem_singleton.mp h] at he
    omega
  have hu : Usual [d] := ⟨hne (by decide), hne (by decide)⟩
  exact Keyword.foreign_of_usual hw.run hu List.mem_cons_self hd

theorem apply_of_spells {w : WordMarking} (hw : w.IsPlain) {m : List Char} (hm : IsRun m)
    (h : w.keyword.Spells m) : w.apply m = Markup.wrap w.opening m := by
  rw [apply_eq, Keyword.cut_of_spells hw.run.ne_nil hm h]
  simp [Cut.replace]

theorem apply_of_not_spells {w : WordMarking} (hw : w.IsPlain) {m : List Char} (hm : IsRun m)
    (h : ¬ w.keyword.Spells m) : w.apply m = m := by
  rw [apply_eq, Keyword.cut_of_not_spells hw.run.ne_nil hw.bounded hm h, Cut.replace]

/-- A plain word that is not found in an opening tag is not found in the closing tag: the only run of
word characters there begins every opening tag, too. -/
theorem IsPlain.cut_closing {w e : WordMarking} (hw : w.IsPlain)
    (h : w.keyword.search none e.opening = none) :
    w.keyword.search.cut Markup.closing = .rest Markup.closing := by
  have hk := hw.run.ne_nil
  have hopening : e.opening = '<' :: ("span".toList ++ ' ' :: ("class='".toList ++ e.className.toList ++
      "' title='".toList ++ e.description.toList ++ "'>".toList)) := by
    simp [opening]
  have hcut := Search.scan_of_search_none (Keyword.front_proper hk) h
  rw [← Search.cut_ofFront, ← Keyword.search, hopening,
    (hw.foreign (by decide) (by decide) : w.keyword.Foreign '<').cut_cons hk,
    (hw.foreign (by decide) (by decide) : w.keyword.Foreign ' ').cut_append_cons hk] at hcut
  have hspan : w.keyword.search.cut "span".toList = .rest "span".toList := by
    refine Keyword.cut_of_not_spells hk hw.bounded (by decide) fun hspells => ?_
    rw [Keyword.cut_of_spells hk (by decide) hspells] at hcut
    cases hcut
  have hclosing : Markup.closing = '<' :: '/' :: ("span".toList ++ '>' :: []) := by decide
  rw [hclosing, (hw.foreign (by decide) (by decide) : w.keyword.Foreign '<').cut_cons hk,
    (hw.foreign (by decide) (by decide) : w.keyword.Foreign '/').cut_cons hk,
    (hw.foreign (by decide) (by decide) : w.keyword.Foreign '>').cut_append_cons hk, hspan,
    (hw.foreign (by decide) (by decide) : w.keyword.Foreign '>').cut_cons hk, Keyword.cut_nil hk]
  rfl

/-- A plain word leaves the span of another word alone if it is not found in the opening tag. -/
theorem apply_wrap {w e : WordMarking} (hw : w.IsPlain)
    (h : w.keyword.search none e.opening = none) {m : List Char} (hm : IsRun m)
    (hspells : ¬ w.keyword.Spells m) :
    w.apply (Markup.wrap e.opening m) = Markup.wrap e.opening m := by
  have hk := hw.run.ne_nil
  obtain ⟨o, ho⟩ : ∃ o, e.opening = o ++ ['>'] := by
    refine ⟨("<span class='" ++ e.className ++ "' title='" ++ e.description ++ "'").toList, ?_⟩
    simp [opening]
  obtain ⟨c, hc⟩ : ∃ c, Markup.closing = '<' :: c := ⟨_, rfl⟩
  have hcutOpening := Search.scan_of_search_none (Keyword.front_proper hk) h
  rw [← Search.cut_ofFront, ← Keyword.search] at hcutOpening
  -- the brackets of the tags separate the run from them
  have hcut : w.keyword.search.cut (Markup.wrap e.opening m) =
      ((Cut.rest e.opening).append (.rest m)).append (.rest Markup.closing) := by
    rw [← hw.cut_closing h, ← Keyword.cut_of_not_spells hk hw.bounded hm hspells, ← hcutOpening, ho,
      ← (hw.foreign (by decide) (by decide) : w.keyword.Foreign '>').cut_append_of_last hk, hc,
      ← (hw.foreign (by decide) (by decide) : w.keyword.Foreign '<').cut_append_cons hk, ← ho, ← hc]
    rfl
  rw [apply_eq, hcut]
  simp [Cut.append, Cut.prepend, Cut.replace, Markup.wrap]

/-! ### Words one after the other -/

/-- Plain words are put in spans run by run. -/
theorem foldl_apply_eq {ws : List WordMarking} (hws : ∀ w ∈ ws, w.IsPlain) {text : List Char}
    (hu : Usual text) : ws.foldl (fun t w => w.apply t) text =
      (Text.runs text).replace fun m _ => ws.foldl (fun t w => w.apply t) m :=
  Keyword.foldl_replace_eq keyword (fun w m _ => Markup.wrap w.opening m) (fun w hw => (hws w hw).run) hu

/-- A run that spells none of some plain words is left as it is. -/
theorem foldl_apply_of_not_spells {ws : List WordMarking} (hws : ∀ w ∈ ws, w.IsPlain) {m : List Char}
    (hm : IsRun m) (h : ∀ w ∈ ws, ¬ w.keyword.Spells m) : ws.foldl (fun t w => w.apply t) m = m := by
  induction ws with
  | nil => rfl
  | cons w ws ih =>
    rw [List.forall_mem_cons] at hws h
    rw [List.foldl_cons, apply_of_not_spells hws.1 hm h.1, ih hws.2 h.2]

/-- The span of a word is left alone by plain words that are not found in its opening tag. -/
theorem foldl_apply_wrap {ws : List WordMarking} (hws : ∀ w ∈ ws, w.IsPlain) {e : WordMarking}
    (hmiss : ∀ w ∈ ws, w.keyword.search none e.opening = none) {m : List Char} (hm : IsRun m)
    (h : ∀ w ∈ ws, ¬ w.keyword.Spells m) :
    ws.foldl (fun t w => w.apply t) (Markup.wrap e.opening m) = Markup.wrap e.opening m := by
  induction ws with
  | nil => rfl
  | cons w ws ih =>
    rw [List.forall_mem_cons] at hws h hmiss
    rw [List.foldl_cons, apply_wrap hws.1 hmiss.1 hm h.1, ih hws.2 hmiss.2 h.2]

end WordMarking

/-! ### The words of a rule -/

namespace Marking

open WordMarking (standard)

/-- Whether a run is the keyword of a token, up to case unless the rule minds it. -/
def isKeyword (rule : KeywordRule) (run : List Char) (t : Token) : Bool :=
  if rule.caseSensitive then run == t.keyword.toList
  else run.map Char.toLower == t.keyword.toList.map Char.toLower

/-- The token of a rule whose keyword a run is. -/
def tokenOf (rule : KeywordRule) (run : List Char) : Option Token := rule.tokens.find? (isKeyword rule run)

/-- One pass over a text that puts each run of word characters that is the keyword of some token in the
span of this token. -/
def onePass (v : Vocabulary) (rule : KeywordRule) (text : List Char) : List Char :=
  (Text.runs text).replace fun run _ =>
    match tokenOf rule run with
    | some t => Markup.wrap (standard v rule t).opening run
    | none => run

/-- A rule of bounded keywords that are made of word characters, are different up to case, and are not
found in the opening tags of each other. -/
structure Independent (v : Vocabulary) (rule : KeywordRule) : Prop where
  bounded : rule.wordBoundaries = true
  runs : ∀ t ∈ rule.tokens, IsRun t.keyword.toList
  different : (rule.tokens.map fun t => t.keyword.toList.map Char.toLower).Nodup
  missing : rule.tokens.Pairwise fun s t =>
    (standard v rule s).keyword.search none (standard v rule t).opening = none ∧
      (standard v rule t).keyword.search none (standard v rule s).opening = none

section Independent

variable {v : Vocabulary} {rule : KeywordRule}

theorem Independent.isPlain (h : Independent v rule) :
    ∀ w ∈ rule.tokens.map (standard v rule), w.IsPlain := by
  rw [List.forall_mem_map]
  intro t ht
  refine ⟨?_, h.runs t ht⟩
  -- a word character is no sentinel
  have hrun := h.runs t ht
  obtain ⟨c, later, hcons⟩ := List.exists_cons_of_ne_nil hrun.ne_nil
  have hc : WordMarking.sentinels.contains c = false := by
    rw [Bool.eq_false_iff]
    intro hmem
    have hword := hrun.isWord c (hcons ▸ List.mem_cons_self)
    simp only [WordMarking.sentinels, List.contains_eq_mem, List.mem_cons, List.not_mem_nil, or_false,
      decide_eq_true_eq] at hmem
    rcases hmem with rfl | rfl | rfl
    · exact absurd hword (by decide)
    · exact absurd hword (by decide)
    · exact absurd hword (by decide)
  simp only [standard, WordMarking.keywordOf, WordMarking.isSentinel, hcons, List.head?_cons,
    Option.any_some, hc, h.bounded]
  rfl

/-- A run spells the keyword of a token if it is this keyword, up to case unless the rule minds it. -/
theorem spells_iff {t : Token} (ht : IsRun t.keyword.toList) {run : List Char} (hrun : IsRun run) :
    (standard v rule t).keyword.Spells run ↔ isKeyword rule run t = true := by
  have hascii {word : List Char} (hword : IsRun word) : ∀ c ∈ word, c.toNat < 128 :=
    fun c hc => Spacing.toNat_lt_of_isWord (hword.isWord c hc)
  unfold Keyword.Spells isKeyword
  change List.Forall₂ (fun a b => (if rule.caseSensitive then a == b else Text.foldEq a b) = true)
    t.keyword.toList run ↔ _
  cases rule.caseSensitive with
  | true =>
    simp only [if_true, beq_iff_eq, List.forall₂_eq_eq_eq]
    exact eq_comm
  | false =>
    simp only [Bool.false_eq_true, if_false, beq_iff_eq]
    exact ⟨fun h => (Spelled.map_toLower h (hascii ht) (hascii hrun)).symm, Spelled.of_map_toLower⟩

/-- Of tokens that are different up to case a run is the keyword of at most one. -/
theorem Independent.tokenOf_eq_some_iff (h : Independent v rule) {run : List Char} {t : Token} :
    tokenOf rule run = some t ↔ t ∈ rule.tokens ∧ isKeyword rule run t = true := by
  have hlower {t : Token} (ht : isKeyword rule run t = true) :
      run.map Char.toLower = t.keyword.toList.map Char.toLower := by
    unfold isKeyword at ht
    split at ht
    · rw [beq_iff_eq.mp ht]
    · exact beq_iff_eq.mp ht
  constructor
  · intro hfind
    exact ⟨List.mem_of_find?_eq_some hfind, List.find?_some hfind⟩
  · rintro ⟨hmem, hkeyword⟩
    cases hfind : tokenOf rule run with
    | none => exact absurd hkeyword (List.find?_eq_none.mp hfind t hmem)
    | some s =>
      have hs := hlower (List.find?_some hfind)
      rw [List.inj_on_of_nodup_map h.different (List.mem_of_find?_eq_some hfind) hmem
        (hs.symm.trans (hlower hkeyword))]

/-- The token whose keyword a run is is the one whose keyword it spells. -/
theorem Independent.tokenOf_eq_some_iff_spells (h : Independent v rule) {run : List Char}
    (hrun : IsRun run) {t : Token} :
    tokenOf rule run = some t ↔ t ∈ rule.tokens ∧ (standard v rule t).keyword.Spells run := by
  rw [h.tokenOf_eq_some_iff]
  exact and_congr_right fun ht => (spells_iff (h.runs t ht) hrun).symm

/-- A run that spells one keyword of a rule spells none before it and none behind it. -/
theorem Independent.not_spells (h : Independent v rule) {run : List Char} (hrun : IsRun run)
    {t : Token} {before after : List Token} (htokens : rule.tokens = before ++ t :: after)
    (ht : (standard v rule t).keyword.Spells run) :
    ∀ s ∈ before ++ after, ¬ (standard v rule s).keyword.Spells run := by
  intro s hs hspells
  have hfind : tokenOf rule run = some t :=
    (h.tokenOf_eq_some_iff_spells hrun).mpr ⟨by simp [htokens], ht⟩
  have hmem : s ∈ rule.tokens := by
    rw [htokens, List.mem_append, List.mem_cons]
    rcases List.mem_append.mp hs with hs | hs
    · exact .inl hs
    · exact .inr (.inr hs)
  obtain rfl := Option.some.inj
    (hfind.symm.trans ((h.tokenOf_eq_some_iff_spells hrun).mpr ⟨hmem, hspells⟩))
  -- but no token occurs twice
  have hnodup := h.different.of_map
  rw [htokens, List.nodup_middle, List.nodup_cons] at hnodup
  exact hnodup.1 hs

/-- The words of a rule one after the other in a run. -/
theorem Independent.foldl_apply_run (h : Independent v rule) {run : List Char} (hrun : IsRun run) :
    (rule.tokens.map (standard v rule)).foldl (fun t w => w.apply t) run =
      match tokenOf rule run with
      | some t => Markup.wrap (standard v rule t).opening run
      | none => run := by
  have hplain := h.isPlain
  cases hfind : tokenOf rule run with
  | none =>
    refine WordMarking.foldl_apply_of_not_spells hplain hrun (List.forall_mem_map.mpr fun t ht hs => ?_)
    rw [(h.tokenOf_eq_some_iff_spells hrun).mpr ⟨ht, hs⟩] at hfind
    cases hfind
  | some t =>
    obtain ⟨hmem, ht⟩ := (h.tokenOf_eq_some_iff_spells hrun).mp hfind
    obtain ⟨before, after, htokens⟩ := List.append_of_mem hmem
    have hother := h.not_spells hrun htokens ht
    have hmissing := h.missing
    rw [htokens] at hplain hmissing
    rw [List.pairwise_append, List.pairwise_cons] at hmissing
    rw [List.map_append, List.map_cons, List.forall_mem_append, List.forall_mem_cons] at hplain
    -- the words before it leave the run alone, those behind it leave its span alone
    rw [htokens, List.map_append, List.map_cons, List.foldl_append, List.foldl_cons,
      WordMarking.foldl_apply_of_not_spells hplain.1 hrun
        (List.forall_mem_map.mpr fun s hs => hother s (List.mem_append_left _ hs)),
      WordMarking.apply_of_spells hplain.2.1 hrun ht]
    exact WordMarking.foldl_apply_wrap hplain.2.2
      (List.forall_mem_map.mpr fun s hs => (hmissing.2.1.1 s hs).2) hrun
      (List.forall_mem_map.mpr fun s hs => hother s (List.mem_append_right _ hs))

/-- In another order the tokens of a rule are as independent. -/
theorem Independent.perm (h : Independent v rule) {tokens : List Token}
    (hperm : tokens.Perm rule.tokens) : Independent v { rule with tokens } where
  bounded := h.bounded
  runs t ht := h.runs t (hperm.subset ht)
  different := (hperm.map _).nodup_iff.mpr h.different
  missing := hperm.symm.pairwise h.missing fun h => h.symm

theorem Independent.tokenOf_perm (h : Independent v rule) {tokens : List Token}
    (hperm : tokens.Perm rule.tokens) (run : List Char) :
    tokenOf { rule with tokens } run = tokenOf rule run := by
  apply Option.ext
  intro t
  rw [(h.perm hperm).tokenOf_eq_some_iff, h.tokenOf_eq_some_iff, hperm.mem_iff]
  rfl

/-- A rule whose tokens can all be searched for is ready in every order of them. -/
theorem ofKeywordRule_perm {a : Marking} (hok : ofKeywordRule v rule = .ok a) {tokens : List Token}
    (hperm : tokens.Perm rule.tokens) :
    ∃ a', ofKeywordRule v { rule with tokens } = .ok a' := by
  obtain ⟨ws, hws, -⟩ := Results.map_eq_ok.mp hok
  have hall := Results.exists_mapM_eq_ok.mp ⟨ws, hws⟩
  obtain ⟨ws', hws'⟩ := Results.exists_mapM_eq_ok (l := tokens) (f := WordMarking.ofToken v rule) |>.mpr
    fun t ht => hall t (hperm.subset ht)
  exact ⟨_, Results.map_eq_ok.mpr ⟨ws', hws', rfl⟩⟩

/-- The words of an independent rule are put in spans as in one pass. -/
theorem Independent.apply_eq (h : Independent v rule) {a : Marking} (hok : ofKeywordRule v rule = .ok a)
    {text : List Char} (hu : Usual text) : a.apply text = onePass v rule text := by
  obtain rfl := ofKeywordRule_eq_ok hok
  have hfold := WordMarking.foldl_apply_eq h.isPlain hu
  rw [apply, hfold, onePass]
  exact (Text.ofRuns_runs text).replace_congr fun run hrun => h.foldl_apply_run hrun

/-- The words of an independent rule are put in spans as in one pass, in whatever order they come. -/
theorem apply_eq_onePass (h : Independent v rule) {a : Marking} (hok : ofKeywordRule v rule = .ok a)
    {text : List Char} (hu : Usual text) :
    a.apply text = onePass v rule text ∧ ∀ tokens : List Token, tokens.Perm rule.tokens →
      ∃ a', ofKeywordRule v { rule with tokens } = .ok a' ∧ a'.apply text = a.apply text := by
  refine ⟨h.apply_eq hok hu, fun tokens hperm => ?_⟩
  obtain ⟨a', hok'⟩ := ofKeywordRule_perm hok hperm
  refine ⟨a', hok', ?_⟩
  rw [(h.perm hperm).apply_eq hok' hu, h.apply_eq hok hu, onePass, onePass]
  simp only [h.tokenOf_perm hperm]
  rfl

/-- Two words in either order. -/
theorem apply_eq_onePass_sample :
    let v := Vocabulary.ofGrammar (.sample [])
    let rule : KeywordRule := ⟨"words", false, true, [⟨"and", "Word", "both"⟩, ⟨"EQ", "Word", "equal to"⟩]⟩
    let markup := "a <span class='rcse-word' title='equal to'>eq</span> b1 " ++
      "<span class='rcse-word' title='both'>AND</span> eq1"
    Independent v rule ∧ Usual "a eq b1 AND eq1".toList ∧
      ∃ a, ofKeywordRule v rule = .ok a ∧ a.apply "a eq b1 AND eq1".toList = markup.toList ∧
        ∃ a', ofKeywordRule v { rule with tokens := rule.tokens.reverse } = .ok a' ∧
          a'.apply "a eq b1 AND eq1".toList = markup.toList := by
  intro v rule markup
  have h : Independent v rule := by
    refine ⟨rfl, by decide, by decide, ?_⟩
    unfold v rule
    decide +kernel
  have hu : Usual "a eq b1 AND eq1".toList := ⟨by decide, by decide⟩
  have hsome : (ofKeywordRule v rule).toOption.any (fun _ => true) := by
    unfold v rule
    decide +kernel
  obtain ⟨a, hok, -⟩ := Results.exists_of_any hsome
  obtain ⟨hpass, hperm⟩ := apply_eq_onePass h hok hu
  have hmarkup : onePass v rule "a eq b1 AND eq1".toList = markup.toList := by
    unfold v rule markup
    decide +kernel
  rw [hmarkup] at hpass
  obtain ⟨a', hok', happly⟩ := hperm rule.tokens.reverse (List.reverse_perm _)
  exact ⟨h, hu, a, hok, hpass, a', hok', happly.trans hpass⟩

end Independent

end Marking

end Annotator
