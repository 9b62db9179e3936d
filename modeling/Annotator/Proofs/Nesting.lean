import Annotator.Proofs.KeywordSearch
import Annotator.Proofs.Spans

/-!
# Nested spans

Where neither keywords nor what is written into tags has angle brackets, and no keyword of a rule
finds anything in the tags of the ones before it, every rule puts properly nested spans into the text
and changes nothing else: the text without its tags is the escaped text.

## Key results

- `Markup.Marks.rewritten`: changing plain segments into nested markup keeps markup nested
- `Marking.marks_apply`: a rule puts nested spans into a text without brackets
- `Highlighter.nested_highlight`: the markup of a text is nested and shows the escaped text
-/

namespace Annotator

namespace Markup

/-- How many spans are open after a tag, if `depth` of them were open before; `none` if it closes a
span where none is open, or neither opens nor closes a span. -/
def depthStep (depth : Nat) (t : List Char) : Option Nat :=
  if t == closing then (if depth = 0 then none else some (depth - 1))
  else if "<span ".toList.isPrefixOf t then some (depth + 1)
  else none

/-- How many spans are open after some tags, if `depth` of them were open before. -/
def depthAfter (depth : Nat) (tags : List (List Char)) : Option Nat := tags.foldlM depthStep depth

/-- A text whose tags are opening and closing tags of spans that are properly nested. -/
def Nested (text : List Char) : Prop := depthAfter 0 (tags text) = some 0

/-! ### Depth -/

@[simp] theorem depthAfter_nil (depth : Nat) : depthAfter depth [] = some depth := rfl

theorem depthAfter_cons (depth : Nat) (t : List Char) (later : List (List Char)) :
    depthAfter depth (t :: later) = (depthStep depth t).bind fun d => depthAfter d later := rfl

theorem depthAfter_append (depth : Nat) (a b : List (List Char)) :
    depthAfter depth (a ++ b) = (depthAfter depth a).bind fun d => depthAfter d b :=
  List.foldlM_append

/-- A span that is open around a tag does not matter to it. -/
private theorem depthStep_succ {depth e : Nat} {t : List Char} (h : depthStep depth t = some e) :
    depthStep (depth + 1) t = some (e + 1) := by
  unfold depthStep at h ⊢
  split at h
  · rename_i ht
    split at h
    · cases h
    · obtain rfl := Option.some.inj h
      rw [if_pos ht, if_neg (Nat.succ_ne_zero depth)]
      congr 1
      omega
  · rename_i ht
    rw [if_neg ht]
    split at h
    · rename_i ho
      obtain rfl := Option.some.inj h
      rw [if_pos ho]
    · cases h

/-- Spans that are open around some tags do not matter to them. -/
theorem depthAfter_add {depth e : Nat} {a : List (List Char)} (h : depthAfter depth a = some e)
    (k : Nat) : depthAfter (depth + k) a = some (e + k) := by
  induction k with
  | zero => exact h
  | succ k ih =>
    clear h
    -- one more open span around the tags
    rw [← Nat.add_assoc, ← Nat.add_assoc]
    generalize depth + k = d at ih
    generalize e + k = e at ih
    induction a generalizing d with
    | nil =>
      obtain rfl := Option.some.inj ih
      rfl
    | cons t a iha =>
      rw [depthAfter_cons, Option.bind_eq_some_iff] at ih
      obtain ⟨d', hstep, hlater⟩ := ih
      rw [depthAfter_cons, depthStep_succ hstep]
      exact iha d' hlater

theorem depthAfter_of_nested {a : List (List Char)} (h : depthAfter 0 a = some 0) (depth : Nat) :
    depthAfter depth a = some depth := by
  have := depthAfter_add h depth
  rwa [Nat.zero_add] at this

theorem IsOpening.ne_closing {o : List Char} (h : IsOpening o) : (o == closing) = false := by
  obtain ⟨inner, _, rfl⟩ := h
  rw [beq_eq_false_iff_ne]
  intro heq
  have hsecond : ("<span ".toList ++ inner ++ ['>'])[1]? = some 's' := rfl
  rw [heq] at hsecond
  exact absurd hsecond (by decide)

theorem depthStep_opening {o : List Char} (h : IsOpening o) (depth : Nat) :
    depthStep depth o = some (depth + 1) := by
  have hpre : "<span ".toList.isPrefixOf o = true := by
    obtain ⟨inner, _, rfl⟩ := h
    rw [List.isPrefixOf_iff_prefix, List.append_assoc]
    exact List.prefix_append _ _
  rw [depthStep, h.ne_closing, if_neg Bool.false_ne_true, if_pos hpre]

theorem depthStep_closing (depth : Nat) : depthStep (depth + 1) closing = some depth := by
  rw [depthStep, if_pos (beq_self_eq_true closing)]
  rfl

/-! ### Marked texts -/

/-- A text with nested spans in it, whose tags all satisfy `T`. -/
structure Marks (T : List Char → Prop) (text marked : List Char) : Prop where
  closed : Closed marked
  allowed : ∀ t ∈ tags marked, T t
  nested : Nested marked
  shown_eq : shown marked = text

namespace Marks

variable {T : List Char → Prop} {s t x y : List Char}

theorem of_bracketFree (h : BracketFree t) : Marks T t t where
  closed := h.closed
  allowed := by simp [tags_of_not_mem h.1]
  nested := by rw [Nested, tags_of_not_mem h.1]; rfl
  shown_eq := shown_of_not_mem h.1

theorem append (hx : Marks T s x) (hy : Marks T t y) : Marks T (s ++ t) (x ++ y) where
  closed := hx.closed.append hy.closed
  allowed := by
    rw [tags_append hx.closed]
    exact List.forall_mem_append.mpr ⟨hx.allowed, hy.allowed⟩
  nested := by
    rw [Nested, tags_append hx.closed, depthAfter_append, hx.nested]
    exact hy.nested
  shown_eq := by rw [shown_append hx.closed, hx.shown_eq, hy.shown_eq]

/-- A marked text in a span. -/
theorem wrap {o : List Char} (ho : IsOpening o) (hT : T o) (hT' : T closing) (h : Marks T t x) :
    Marks T t (wrap o x) where
  closed := (ho.closed.append h.closed).append closed_closing
  allowed := by
    rw [Markup.wrap, tags_append (ho.closed.append h.closed), tags_append ho.closed, ho.isTag.tags,
      isTag_closing.tags]
    simp only [List.forall_mem_append, List.forall_mem_singleton]
    exact ⟨⟨hT, h.allowed⟩, hT'⟩
  nested := by
    rw [Nested, Markup.wrap, tags_append (ho.closed.append h.closed), tags_append ho.closed,
      ho.isTag.tags, isTag_closing.tags, List.append_assoc, List.singleton_append, depthAfter_cons,
      depthStep_opening ho, Option.bind_some, depthAfter_append, depthAfter_of_nested h.nested,
      Option.bind_some, depthAfter_cons, depthStep_closing]
    rfl
  shown_eq := by
    rw [Markup.wrap, shown_append (ho.closed.append h.closed), shown_append ho.closed,
      ho.isTag.shown, isTag_closing.shown, h.shown_eq, List.nil_append, List.append_nil]

/-- Putting hits of a bracket-free text in spans. -/
theorem replace_wrap {o : List Char} (ho : IsOpening o) (hT : T o) (hT' : T closing) {c : Cut}
    (h : BracketFree c.text) : Marks T c.text (c.replace fun m _ => Markup.wrap o m) := by
  induction c with
  | rest t => exact of_bracketFree h
  | hit b m g a ih =>
    rw [Cut.text_hit, bracketFree_append, bracketFree_append] at h
    obtain ⟨⟨hb, hm⟩, ha⟩ := h
    exact ((of_bracketFree hb).append ((of_bracketFree hm).wrap ho hT hT')).append (ih ha)

end Marks

/-! ### Changing plain segments of marked texts -/

/-- The parts of a text whose plain segments have been changed into marked texts. -/
private theorem parts_of_rewritten {T : List Char → Prop} {c : Cut} (hc : Segmented c)
    (hplain : BracketFree c.plain) (hT : ∀ m ∈ c.hits, T m) {x : List Char}
    (h : Rewritten (fun b b' => BracketFree b → Marks T b b') c x) :
    Closed x ∧ (∀ t ∈ tags x, T t) ∧ (∀ depth, depthAfter depth (tags x) = depthAfter depth c.hits) ∧
      shown x = c.plain := by
  induction h with
  | rest h =>
    have hm := h (by simpa using hplain)
    refine ⟨hm.closed, hm.allowed, fun depth => ?_, by simpa using hm.shown_eq⟩
    rw [depthAfter_of_nested hm.nested]; rfl
  | @hit b b' m x g a hb _ ih =>
    cases hc with
    | hit _ htag hclosed hlater =>
      rw [Cut.plain_hit, bracketFree_append] at hplain
      rw [Cut.hits, List.forall_mem_cons] at hT
      have hm := hb hplain.1
      obtain ⟨ihclosed, ihT, ihdepth, ihshown⟩ := ih hlater hplain.2 hT.2
      -- the tags of the changed segment leave the depth as it was before the tag `m`
      have htags : tags (b' ++ (m ++ x)) = tags b' ++ m :: tags x := by
        rw [tags_append hm.closed, tags_append hclosed, htag.tags]; rfl
      refine ⟨hm.closed.append (hclosed.append ihclosed), ?_, fun depth => ?_, ?_⟩
      · rw [htags, List.forall_mem_append, List.forall_mem_cons]
        exact ⟨hm.allowed, hT.1, ihT⟩
      · rw [htags, depthAfter_append, depthAfter_of_nested hm.nested]
        simp only [Option.bind_some, Cut.hits, depthAfter_cons, ihdepth]
      · rw [shown_append hm.closed, shown_append hclosed, htag.shown, hm.shown_eq, ihshown,
          Cut.plain_hit, List.nil_append]

/-- Changing the plain segments of a marked text into marked texts. -/
theorem Marks.rewritten {T S : List Char → Prop} (hTS : ∀ m, T m → S m) {text x y : List Char}
    (hx : Marks T text x) (htext : BracketFree text)
    (h : Rewritten (fun b b' => BracketFree b → Marks S b b') (tag.cut x) y) : Marks S text y := by
  have hplain : BracketFree (tag.cut x).plain := by rwa [← shown, hx.shown_eq]
  obtain ⟨hclosed, hallowed, hdepth, hshown⟩ := parts_of_rewritten (segmented_cut hx.closed) hplain
    (fun m hm => hTS m (hx.allowed m hm)) h
  exact ⟨hclosed, hallowed, (hdepth 0).trans hx.nested, hshown.trans hx.shown_eq⟩

end Markup

/-! ### Words -/

namespace WordMarking

/-- A word that can be found anywhere is found in a closing tag. -/
theorem Misses.text_ne_nil {w e : WordMarking} (h : w.Misses e) : w.keyword.text ≠ [] := by
  have hclosing := h.closing
  generalize w.keyword = k at hclosing ⊢
  obtain ⟨text, exact, bounded⟩ := k
  intro heq
  subst heq
  revert hclosing
  cases exact <;> cases bounded <;> decide

/-- A bracket-free word that finds nothing in the tags of a text changes its plain segments. -/
private theorem rewritten_apply {w : WordMarking} (hk : w.keyword.text ≠ [])
    (ho : w.keyword.Avoids '<') (hc : w.keyword.Avoids '>') {c : Cut} (h : Markup.Segmented c)
    (hmiss : ∀ m ∈ c.hits, w.keyword.search none m = none) :
    Markup.Rewritten (fun b b' => b' = w.apply b) c (w.apply c.text) := by
  induction h with
  | rest _ => exact .rest rfl
  | @hit b m a _ htag _ _ ih =>
    rw [Cut.hits, List.forall_mem_cons] at hmiss
    have hm : w.keyword.search.cut m = .rest m :=
      Search.scan_of_search_none (Keyword.front_proper hk) hmiss.1
    -- the brackets of the tag separate it from the texts on either side
    have hcut : w.keyword.search.cut (b ++ m ++ a.text) =
        (w.keyword.search.cut b).append ((Cut.rest m).append (w.keyword.search.cut a.text)) := by
      rw [← hm]
      obtain ⟨inner, _, _, rfl⟩ := htag
      rw [List.append_assoc, List.cons_append, ho.foreign.cut_append_cons hk, ← List.cons_append,
        ← List.cons_append, hc.foreign.cut_append_of_last hk ('<' :: inner) a.text]
    have happly : w.apply (b ++ m ++ a.text) = w.apply b ++ (m ++ w.apply a.text) := by
      rw [apply, hcut, Cut.replace_append, Cut.replace_append]
      rfl
    rw [Cut.text_hit, happly]
    exact .hit rfl (ih hmiss.2)

/-- A word in a text without brackets. -/
theorem marks_apply {w : WordMarking} {T : List Char → Prop} (hw : Markup.IsOpening w.opening)
    (hT : T w.opening) (hT' : T Markup.closing) {text : List Char} (h : Markup.BracketFree text) :
    Markup.Marks T text (w.apply text) := by
  have hcut := Search.text_cut w.keyword.search text
  have := Markup.Marks.replace_wrap hw hT hT' (c := w.keyword.search.cut text) (by rwa [hcut])
  rwa [hcut] at this

/-- Words of which the later ones find nothing in the tags of the earlier ones put nested spans into
a text without brackets. -/
theorem marks_foldl {ws : List WordMarking} (hopen : ∀ w ∈ ws, Markup.IsOpening w.opening)
    (hfree : ∀ w ∈ ws, Markup.BracketFree w.keyword.text)
    (hmiss : ws.Pairwise fun e l => l.Misses e) {text : List Char} (h : Markup.BracketFree text) :
    Markup.Marks (TagOf ws) text (ws.foldl (fun t w => w.apply t) text) := by
  induction ws using List.reverseRecOn with
  | nil => exact .of_bracketFree h
  | append_singleton ws w ih =>
    rw [List.pairwise_append] at hmiss
    rw [List.forall_mem_append, List.forall_mem_singleton] at hopen hfree
    have ih := ih hopen.1 hfree.1 hmiss.1
    have hT : TagOf (ws ++ [w]) w.opening := ⟨w, by simp, .inl rfl⟩
    have hT' : TagOf (ws ++ [w]) Markup.closing := ⟨w, by simp, .inr rfl⟩
    rw [List.foldl_append, List.foldl_cons, List.foldl_nil]
    -- the first word may be empty: it runs over the text itself
    rcases ws.eq_nil_or_concat with rfl | ⟨_, e, heq⟩
    · exact marks_apply hopen.2 hT hT' h
    · have hmissw : ∀ e ∈ ws, w.Misses e := fun e he => hmiss.2.2 e he w List.mem_cons_self
      have hk : w.keyword.text ≠ [] := (hmissw e (by simp [heq])).text_ne_nil
      have hmono (t : List Char) (ht : TagOf ws t) : TagOf (ws ++ [w]) t :=
        ht.mono (List.subset_append_left ws [w])
      -- a later word finds nothing in the tags that are there, so it changes plain segments
      refine ih.rewritten hmono h (Markup.Rewritten.mono ?_ (?_ : Markup.Rewritten
        (fun b b' => b' = w.apply b) _ _))
      · rintro b _ rfl hb
        exact marks_apply hopen.2 hT hT' hb
      · have := rewritten_apply (w := w) hk ⟨by decide, by decide, hfree.2.1⟩
          ⟨by decide, by decide, hfree.2.2⟩ (Markup.segmented_cut ih.closed) ?_
        · rwa [Markup.tag, Search.text_cut] at this
        · intro m hm
          obtain ⟨e, he, rfl | rfl⟩ := ih.allowed m hm
          · exact (hmissw e he).opening
          · exact (hmissw e he).closing

end WordMarking

/-! ### Rules -/

namespace Marking

/-- A rule whose words have no angle brackets and find nothing in the tags of the words before
them. -/
def Apart : Marking → Prop
  | words _ ws => (∀ w ∈ ws, Markup.BracketFree w.keyword.text) ∧
      ws.Pairwise fun e l => l.Misses e
  | pattern _ _ _ => True

/-- A rule puts nested spans into a text without brackets. -/
theorem marks_apply {a : Marking} (ha : a.PutsSpans) (hapart : a.Apart) {text : List Char}
    (h : Markup.BracketFree text) : Markup.Marks (fun _ => True) text (a.apply text) := by
  cases a with
  | words n ws =>
    have := WordMarking.marks_foldl ha hapart.1 hapart.2 h
    exact ⟨this.closed, fun _ _ => trivial, this.nested, this.shown_eq⟩
  | pattern n m r =>
    obtain ⟨className, rfl, ho⟩ := ha
    have hcut := Search.text_cut m.search text
    have := Markup.Marks.replace_wrap (T := fun _ => True) ho trivial trivial
      (c := m.search.cut text) (by rwa [hcut])
    rw [apply, Replacement.text_wrap]
    rwa [hcut] at this

end Marking

namespace Highlighter

/-- The text between two rules is the escaped text with nested spans. -/
theorem marks_marked (text : List Char) {markings : List Marking}
    (hputs : ∀ a ∈ markings, a.PutsSpans) (hapart : ∀ a ∈ markings, a.Apart) :
    Markup.Marks (fun _ => True) (Markup.escape text) (marked text markings) := by
  induction markings using List.reverseRecOn with
  | nil => exact .of_bracketFree (Markup.bracketFree_escape text)
  | append_singleton markings a ih =>
    rw [List.forall_mem_append, List.forall_mem_singleton] at hputs hapart
    have ih := ih hputs.1 hapart.1
    rw [marked_concat]
    exact ih.rewritten (fun _ h => h) (Markup.bracketFree_escape text)
      (Markup.rewritten_mapSegments (fun _ => .of_bracketFree)
        (fun _ => Marking.marks_apply hputs.2 hapart.2) (Markup.segmented_cut ih.closed) false)

/-- In each keyword rule, no word finds anything in the tags of the words before it. -/
def WordsApart (h : Highlighter) : Prop :=
  ∀ n ws, Marking.words n ws ∈ h.markings → ws.Pairwise fun e l => l.Misses e

/-- Words without brackets that find nothing in the tags before them keep a rule apart. -/
theorem WordsApart.apart {g : Grammar} {h : Highlighter} (hapart : h.WordsApart)
    (hfree : ∀ t ∈ g.tokens, Markup.BracketFree t.keyword.toList)
    (hok : ofVocabulary (.ofGrammar g) = .ok h) {a : Marking} (ha : a ∈ h.markings) : a.Apart := by
  cases a with
  | words n ws =>
    refine ⟨?_, hapart n ws ha⟩
    obtain ⟨rule, hrule, rfl⟩ := words_of_mem hok ha
    rw [List.forall_mem_map]
    intro token htoken
    exact hfree token (List.mem_flatMap.mpr ⟨_, hrule, htoken⟩)
  | pattern n m r => trivial

/-- The tags in the markup of a text are nested spans, and the text without them is the escaped
text. -/
theorem nested_highlight {g : Grammar} {h : Highlighter} (hg : g.SpansOnly)
    (hfree : ∀ t ∈ g.tokens, Markup.BracketFree t.keyword.toList)
    (hok : ofVocabulary (.ofGrammar g) = .ok h) (hapart : h.WordsApart) (text : List Char) :
    Markup.Nested (h.highlight text) ∧ Markup.shown (h.highlight text) = Markup.escape text := by
  have hwords : ∀ a ∈ h.markings, a.Apart := fun a ha => hapart.apart hfree hok ha
  rw [highlight_eq]
  split
  · rename_i hnil
    subst hnil
    have := Markup.Marks.of_bracketFree (T := fun _ => True) Markup.bracketFree_nil
    exact ⟨this.nested, this.shown_eq⟩
  · have := marks_marked text (hg.putsSpans hok) hwords
    exact ⟨this.nested, this.shown_eq⟩

/-- Two words in a text with a comment. -/
theorem nested_highlight_sample :
    ∃ h, ofVocabulary (.ofGrammar (.sample ["eq", "AND"])) = .ok h ∧ h.WordsApart ∧
      Markup.Nested (h.highlight "a eq b and c // eq <3".toList) ∧
      Markup.shown (h.highlight "a eq b and c // eq <3".toList) =
        Markup.escape "a eq b and c // eq <3".toList := by
  have hsome : (ofVocabulary (.ofGrammar (.sample ["eq", "AND"]))).toOption.any (fun _ => true) := by
    decide +kernel
  obtain ⟨h, hok, -⟩ := Results.exists_of_any hsome
  have hapart : h.WordsApart := by
    intro n ws ha
    obtain rfl := Grammar.words_of_mem_sample hok ha
    decide +kernel
  have hfree : ∀ t ∈ (Grammar.sample ["eq", "AND"]).tokens,
      Markup.BracketFree t.keyword.toList := by
    unfold Markup.BracketFree
    decide +kernel
  exact ⟨h, hok, hapart, nested_highlight (Grammar.spansOnly_sample _) hfree hok hapart _⟩

/-- The markup of that text. -/
example : (ofVocabulary (.ofGrammar (.sample ["eq", "AND"]))).toOption.map
    (fun h => String.ofList (h.highlight "a eq b and c // eq <3".toList)) =
      some ("a <span class='rcse-word' title='a word'>eq</span> b " ++
        "<span class='rcse-word' title='a word'>and</span> c " ++
        "<span class='rcse-comment'>// eq &lt;3</span>") := by
  decide +kernel

end Highlighter

end Annotator
