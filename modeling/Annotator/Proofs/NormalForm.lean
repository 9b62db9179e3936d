import Annotator.Proofs.Phrases

/-!
# Operators in normal form

In a text in regular spacing an operator is in *normal form*: it is spelled as the grammar spells it, with
one space on each side, or the end of the text. Words that become an operator only when the blanks between
them are collapsed are another matter: collapsing comes last, after all respacing. So the operator has to be
*tight* in the text that is respaced: what collapses to a spelling of it is that spelling. And it has to be
clear of the others, since where operators overlap, respacing one may change the spelling of the other.

Respacing for the operator itself makes its tight occurrences *neat*, that is, like the operator between
spaces. Respacing for others keeps tight occurrences tight and neat ones neat, because no clear phrase
overlaps what is put in; and tidying keeps them neat, since what stands in the tidied text comes from
something that collapses to it.

## Key results

- `respace_cases`: where the phrases of a respaced text come from
- `Tight.respace`, `neat_respace`: what one pass of respacing keeps and does
- `neat_foldl`: what all passes do
- `neat_tidy`: tidying keeps operators neat
- `normal_of_prettify`: an operator in a text in regular spacing is in normal form
- `exists_not_normal`: not so if there are more blanks between its words, or if operators overlap
-/

namespace Annotator.Spacing

open Text (isBlank isWord wordBoundary)

/-! ### Tight and neat occurrences -/

/-- Whatever collapses in the text to a spelling of the word, as a word of its own, is that spelling. -/
def Tight (word spelling text : List Char) : Prop :=
  ∀ a m r, text = a ++ (m ++ r) → collapse m = spelling → Stands word a spelling r → m = spelling

/-- Whatever collapses in the text to a spelling of the word, as a word of its own, is the word, with spaces
around it. -/
def Neat (word spelling text : List Char) : Prop :=
  ∀ a m r, text = a ++ (m ++ r) → collapse m = spelling → Stands word a spelling r →
    m = word ∧ Spaced a.reverse ∧ Spaced r

section Passes

variable {o : String} {word spelling text : List Char}

/-- What collapses to a spelling of a phrase in a respaced text does so in the text, between two hits and next
to nothing better, or it is an operator that was put there. -/
theorem respace_cases (ho : IsPhrase o.toList) (hw : IsPhrase word) (hclear : Clear word o.toList)
    {a m r : List Char} (hcut : respace text o = a ++ (m ++ r))
    (hstands : Stands word a (collapse m) r) :
    (∃ c₁ c₂ : Cut, Search.Scanned (front (keyword o)) none text (c₁.append (c₂.prepend m)) ∧
      text = c₁.text ++ (m ++ c₂.text) ∧ Stands word c₁.text (collapse m) c₂.text ∧
      (Spaced c₁.text.reverse → Spaced a.reverse) ∧ (Spaced c₂.text → Spaced r)) ∨
    (word = o.toList ∧ m = o.toList ∧ Spaced a.reverse ∧ Spaced r) := by
  have hcollapsed := hstands.spelled.edged hw.edged
  have hm := edged_of_collapse hcollapsed
  have hc := Search.scanned (front_proper ho.edged) none text
  rw [respace_eq, search, Search.cut_ofFront] at hcut
  rcases exists_of_overlap hm hcut with ⟨c₁, c₂, heq, rfl, rfl⟩ | ⟨c₁, hit, g, c₂, heq, hover⟩
  · rw [heq] at hc
    have htext := hc.text_eq
    rw [Cut.text_append, Cut.text_prepend] at htext
    -- what collapses begins and ends like what it collapses to
    obtain ⟨hhead, hlast⟩ := ends_of_collapse hcollapsed
    have hleft := eases_left ho.edged hm.ne_nil hc
    have hright := eases_right ho.edged hm.ne_nil hc
    rw [hhead] at hleft
    rw [hlast] at hright
    exact .inl ⟨c₁, c₂, hc, htext.symm, hstands.of_eases hleft hright, hleft.spaced, hright.spaced⟩
  · obtain ⟨hword, hmo, rfl, rfl⟩ :=
      eq_of_overlap hw ho hclear List.getLast?_concat List.head?_cons hover hstands
    rw [heq] at hc
    obtain ⟨hbefore, hafter⟩ := spaced_of_hit ho.edged hc
    refine .inr ⟨hword, hmo, ?_, hafter⟩
    rwa [List.reverse_append]

/-- Respacing keeps a word tight. -/
theorem Tight.respace (ho : IsPhrase o.toList) (hw : IsPhrase word) (hclear : Clear word o.toList)
    (h : Tight word spelling text) : Tight word spelling (respace text o) := by
  rintro a m r hcut rfl hstands
  rcases respace_cases ho hw hclear hcut hstands with
    ⟨c₁, c₂, -, htext, hthere, -⟩ | ⟨-, rfl, -⟩
  · exact h _ _ _ htext rfl hthere
  · exact (ho.collapse_part (List.infix_refl _)).symm

/-- Respacing for the operator makes neat what is tight, and respacing for another one keeps neat what is
neat. -/
theorem neat_respace (ho : IsPhrase o.toList) (hw : IsPhrase word) (hclear : Clear word o.toList)
    (h : word = o.toList ∧ Tight word spelling text ∨ Neat word spelling text) :
    Neat word spelling (respace text o) := by
  rintro a m r hcut rfl hstands
  rcases respace_cases ho hw hclear hcut hstands with
    ⟨c₁, c₂, hc, htext, hthere, hleft, hright⟩ | ⟨rfl, rfl, hbefore, hafter⟩
  · rcases h with ⟨rfl, htight⟩ | hneat
    · -- the operator itself would have been found there
      rw [← htight _ _ _ htext rfl hthere] at hthere
      exact absurd hthere (not_stands_between ho.edged hc)
    · obtain ⟨hword, hbefore, hafter⟩ := hneat _ _ _ htext rfl hthere
      exact ⟨hword, hleft hbefore, hright hafter⟩
  · exact ⟨rfl, hbefore, hafter⟩

end Passes

/-- Respacing for all operators makes neat what is tight, if the word is one of them. -/
theorem neat_foldl {operators : List String} {word spelling text : List Char}
    (hops : ∀ o ∈ operators, IsPhrase o.toList) (hw : IsPhrase word)
    (hclear : ∀ o ∈ operators, Clear word o.toList)
    (h : Neat word spelling text ∨ Tight word spelling text ∧ ∃ o ∈ operators, word = o.toList) :
    Neat word spelling (operators.foldl respace text) := by
  induction operators generalizing text with
  | nil =>
    refine h.resolve_right ?_
    rintro ⟨-, o, ho, -⟩
    exact absurd ho List.not_mem_nil
  | cons o later ih =>
    obtain ⟨ho, hlater⟩ := List.forall_mem_cons.mp hops
    obtain ⟨hfirst, hclear⟩ := List.forall_mem_cons.mp hclear
    refine ih hlater hclear ?_
    rcases h with hneat | ⟨htight, o', ho', hword⟩
    · exact .inl (neat_respace ho hw hfirst (.inr hneat))
    · rcases List.mem_cons.mp ho' with rfl | ho'
      · exact .inl (neat_respace ho hw hfirst (.inl ⟨hword, htight⟩))
      · exact .inr ⟨htight.respace ho hw hfirst, o', ho', hword⟩

/-! ### Neat occurrences in a tidied text -/

section Tidy

variable {word spelling u v : List Char}

/-- A word is neat in a text if what stands there comes from something in a text where it is neat, next to
something worse. -/
theorem Neat.of_eases (h : Neat word spelling u)
    (hpull : ∀ a m r, v = a ++ (m ++ r) → collapse m = spelling → Spelled word spelling →
      ∃ a' m' r', u = a' ++ (m' ++ r') ∧ collapse m' = spelling ∧ (m' = word → m = word) ∧
        Eases spelling.head? a'.reverse a.reverse ∧ Eases spelling.getLast? r' r) :
    Neat word spelling v := by
  intro a m r hv hm hstands
  obtain ⟨a', m', r', hu, hm', heq, hleft, hright⟩ := hpull a m r hv hm hstands.spelled
  obtain ⟨hword, hbefore, hafter⟩ := h a' m' r' hu hm' (hstands.of_eases hleft hright)
  exact ⟨heq hword, hleft.spaced hbefore, hright.spaced hafter⟩

/-- Unifying line breaks keeps a word neat, since no word has one. -/
theorem neat_breaks (hw : IsPhrase word) (h : Neat word spelling u) :
    Neat word spelling (breaks u) := by
  refine h.of_eases fun a m r hv hm hspelled => ?_
  -- collapsing would keep a line feed
  have hfeed : '\n' ∉ m := by
    intro hmem
    obtain ⟨x, y, rfl⟩ := List.append_of_mem hmem
    have hfeed : '\n' ∈ spelling := by
      rw [← hm, collapse, collapseFrom_append_cons false (by decide) (by decide)]
      simp
    obtain ⟨b, hb, hbc⟩ := Results.exists_of_mem_right hspelled hfeed
    have hblank : isBlank b = true := by
      rw [Text.isBlank_eq_of_foldEq hbc]
      decide
    rw [hw.eq_space hb hblank] at hbc
    exact absurd hbc (by decide)
  have hedged : IsEdged (collapse m) := hm ▸ hspelled.edged hw.edged
  obtain ⟨a', r', rfl, rfl, rfl⟩ := exists_of_breaks (edged_of_collapse hedged).ne_nil hfeed hv
  exact ⟨a', m, r', rfl, hm, id, .of_reblanked (reblanked_breaks a').reverse,
    .of_reblanked (reblanked_breaks r')⟩

/-- Collapsing keeps a word neat, since what stands in a collapsed text comes from something that collapses
to it. -/
theorem neat_collapse (hw : IsPhrase word) (h : Neat word spelling u) :
    Neat word spelling (collapse u) := by
  refine h.of_eases fun a m r hv hm hspelled => ?_
  have hedged : IsEdged (collapse m) := hm ▸ hspelled.edged hw.edged
  obtain ⟨a', m', r', rfl, rfl, rfl, rfl⟩ := exists_of_collapse (edged_of_collapse hedged) hv
  refine ⟨a', m', r', rfl, ?_, ?_, .of_reblanked (reblanked_collapse a').reverse,
    .of_reblanked (reblanked_collapse r')⟩
  · rwa [collapse_collapse] at hm
  · intro hword
    rw [hword, hw.collapse_part (List.infix_refl word)]

/-- Tidying keeps a word neat. -/
theorem neat_tidy (hw : IsPhrase word) (h : Neat word spelling u) : Neat word spelling (tidy u) := by
  have hsqueezed : Neat word spelling (squeeze u) := neat_collapse hw (neat_breaks hw h)
  rw [tidy_eq]
  refine hsqueezed.of_eases fun a m r hv hm _ => ?_
  -- the blanks that are trimmed stand at the ends
  obtain ⟨p, s, hps, hp, hs⟩ := exists_of_trim (squeeze u)
  refine ⟨p ++ a, m, r ++ s, ?_, hm, id, ?_, .of_append_blanks hs r⟩
  · rw [hps, hv]
    simp only [List.append_assoc]
  · rw [List.reverse_append]
    exact .of_append_blanks (fun d hd => hp d (List.mem_reverse.mp hd)) _

end Tidy

/-! ### Operators in regular spacing -/

/-- Without two spaces in a row, and with no blank at the end, a run of spaces is one space before
something else. -/
theorem Spaced.eq_nil_or_cons {text : List Char} (h : Spaced text) (hspaces : ¬ [' ', ' '] <:+: text)
    (hlast : ∀ c ∈ text.getLast?, isBlank c = false) :
    text = [] ∨ ∃ d later, text = ' ' :: d :: later ∧ isBlank d = false := by
  rcases text with _ | ⟨c, _ | ⟨d, later⟩⟩
  · exact .inl rfl
  · have := hlast c rfl
    rw [h.head c rfl] at this
    exact absurd this (by decide)
  · obtain rfl := h.head c rfl
    refine .inr ⟨d, later, rfl, ?_⟩
    rw [Bool.eq_false_iff]
    intro hd
    have hmem : d ∈ (' ' :: d :: later).takeWhile isBlank := by
      rw [List.takeWhile_cons_of_pos (by decide), List.takeWhile_cons_of_pos hd]
      simp
    obtain rfl := h.run d hmem
    exact hspaces ⟨[], later, rfl⟩

/-- An operator in a text in regular spacing is spelled as the grammar spells it, with one space on each
side or an end of the text, if the operator is tight in the text that it comes from, as it is spelled there,
and clear of all operators. -/
theorem normal_of_prettify {g : Grammar} {maxLineLength : Nat} {s : Spacing} {o : String}
    {text before m after : List Char}
    (hs : ofVocabulary (.ofGrammar g) maxLineLength = .ok s)
    (hops : ∀ o ∈ (Vocabulary.ofGrammar g).operators, IsPhrase o.toList)
    (ho : o ∈ (Vocabulary.ofGrammar g).operators)
    (hclear : ∀ o' ∈ (Vocabulary.ofGrammar g).operators, Clear o.toList o'.toList)
    (htight : Tight o.toList m text)
    (htext : s.prettify text = before ++ (m ++ after))
    (hcase : m.map Char.toLower = o.toList.map Char.toLower)
    (hleft : wordBoundary before.getLast? m.head? = true)
    (hright : wordBoundary m.getLast? after.head? = true) :
    m = o.toList ∧
      (before = [] ∨ ∃ b d, before = b ++ [d, ' '] ∧ isBlank d = false) ∧
      (after = [] ∨ ∃ d r, after = ' ' :: d :: r ∧ isBlank d = false) := by
  obtain rfl := eq_of_ofVocabulary hs
  have hspelled : Spelled o.toList m := .of_map_toLower hcase
  have hne := hspelled.ne_nil (hops o ho).ne_nil
  have hnil : text ≠ [] := by
    rintro rfl
    rw [prettify, if_pos rfl] at htext
    exact hne (List.append_eq_nil_iff.mp (List.append_eq_nil_iff.mp htext.symm).2).1
  rw [prettify, if_neg hnil] at htext
  have hneat := neat_tidy (hops o ho)
    (neat_foldl hops (hops o ho) hclear (.inr ⟨htight, o, ho, rfl⟩))
  -- the text is squeezed and trimmed, so that the occurrence collapses to itself
  have hsqueezed := squeezed_tidy ((Vocabulary.ofGrammar g).operators.foldl respace text)
  have hends := isBlank_ends_trim (squeeze ((Vocabulary.ofGrammar g).operators.foldl respace text))
  rw [← tidy_eq] at hends
  simp only at htext
  rw [htext] at hneat hsqueezed hends
  have hm := hsqueezed.of_part (a := m) ⟨before, after, by simp⟩
  obtain ⟨hword, hbefore, hafter⟩ := hneat before m after rfl
    (collapse_eq_self hm.noTab hm.noSpaces) ⟨hspelled, hleft, hright⟩
  refine ⟨hword, ?_, ?_⟩
  · have hspaces : ¬ [' ', ' '] <:+: before.reverse := by
      intro h
      rw [← List.reverse_infix, List.reverse_reverse] at h
      exact hsqueezed.noSpaces (h.trans (List.infix_append' [] before _))
    have hfirst : ∀ c ∈ before.reverse.getLast?, isBlank c = false := by
      rw [List.getLast?_reverse]
      exact fun c hc => hends.1 c (List.mem_head?_append_of_mem_head? hc)
    rcases hbefore.eq_nil_or_cons hspaces hfirst with hnil | ⟨d, b, hcons, hd⟩
    · exact .inl (List.reverse_eq_nil_iff.mp hnil)
    · refine .inr ⟨b.reverse, d, ?_, hd⟩
      rw [← List.reverse_reverse before, hcons]
      simp
  · have hpart : after <:+: before ++ (m ++ after) := ⟨before ++ m, [], by simp⟩
    refine hafter.eq_nil_or_cons (fun h => hsqueezed.noSpaces (h.trans hpart)) fun c hc => ?_
    refine hends.2 c ?_
    rw [← List.append_assoc]
    exact List.mem_getLast?_append_of_mem_getLast? hc

/-- A phrase in another case, between a bracket and a line break. -/
theorem normal_of_prettify_isNot :
    ∃ s : Spacing, ofVocabulary (.ofGrammar (ofOperators ["eq", "is not"])) 80 = .ok s ∧
      (∀ o ∈ (Vocabulary.ofGrammar (ofOperators ["eq", "is not"])).operators, IsPhrase o.toList) ∧
      (∀ o ∈ (Vocabulary.ofGrammar (ofOperators ["eq", "is not"])).operators,
        Clear "is not".toList o.toList) ∧
      Tight "is not".toList "is not".toList "(a\tEQ b)Is NOT\r\n c".toList ∧
      s.prettify "(a\tEQ b)Is NOT\r\n c".toList =
        "(a eq b) ".toList ++ ("is not".toList ++ " c".toList) ∧
      ∃ b d, "(a eq b) ".toList = b ++ [d, ' '] ∧ isBlank d = false := by
  have hops : ∀ o ∈ (Vocabulary.ofGrammar (ofOperators ["eq", "is not"])).operators,
      IsPhrase o.toList := by decide +kernel
  have hclear : ∀ o ∈ (Vocabulary.ofGrammar (ofOperators ["eq", "is not"])).operators,
      Clear "is not".toList o.toList := by decide +kernel
  have htight : Tight "is not".toList "is not".toList "(a\tEQ b)Is NOT\r\n c".toList := by
    rintro a m r htext hm -
    -- the text does not have a small `i`
    have hmem : 'i' ∈ collapse m := by
      rw [hm]
      decide
    have hi : 'i' ∈ m := (mem_collapseFrom hmem).2.resolve_left (by decide)
    have : 'i' ∈ "(a\tEQ b)Is NOT\r\n c".toList := by
      rw [htext]
      simp [hi]
    exact absurd this (by decide)
  have hfirst : (ofVocabulary (.ofGrammar (ofOperators ["eq", "is not"])) 80).toOption.any fun s =>
      s.prettify "(a\tEQ b)Is NOT\r\n c".toList =
        "(a eq b) ".toList ++ ("is not".toList ++ " c".toList) := by
    decide +kernel
  obtain ⟨s, hs, hfirst⟩ := Results.exists_of_any hfirst
  have hfirst := of_decide_eq_true hfirst
  have hnormal := normal_of_prettify (o := "is not") hs hops (by decide +kernel) hclear htight hfirst
    (by decide) (by decide) (by decide)
  exact ⟨s, hs, hops, hclear, htight, hfirst, hnormal.2.1.resolve_left (by decide)⟩

/-- Some operator stands in the text in regular spacing otherwise than the grammar spells it, though the
operators are phrases of which none is a part of another. -/
def Misspells (g : Grammar) (text : List Char) : Prop :=
  (∀ o ∈ (Vocabulary.ofGrammar g).operators, IsPhrase o.toList) ∧
  (∀ o ∈ (Vocabulary.ofGrammar g).operators, ∀ o' ∈ (Vocabulary.ofGrammar g).operators,
    o ≠ o' → ¬ Contained o.toList o'.toList) ∧
  Usual text ∧
  ∃ (s : Spacing) (o : String) (before m after : List Char),
    ofVocabulary (.ofGrammar g) 80 = .ok s ∧ o ∈ (Vocabulary.ofGrammar g).operators ∧
    s.prettify text = before ++ (m ++ after) ∧
    m.map Char.toLower = o.toList.map Char.toLower ∧
    wordBoundary before.getLast? m.head? = true ∧ wordBoundary m.getLast? after.head? = true ∧
    m ≠ o.toList

private theorem misspells_of_prettify {g : Grammar} {text : List Char} (o : String)
    (before m after : List Char)
    (hops : ∀ o ∈ (Vocabulary.ofGrammar g).operators, IsPhrase o.toList)
    (hparts : ∀ o ∈ (Vocabulary.ofGrammar g).operators, ∀ o' ∈ (Vocabulary.ofGrammar g).operators,
      o ≠ o' → ¬ Contained o.toList o'.toList)
    (hu : Usual text)
    (htext : (ofVocabulary (.ofGrammar g) 80).toOption.any fun s =>
      s.prettify text = before ++ (m ++ after))
    (ho : o ∈ (Vocabulary.ofGrammar g).operators)
    (hcase : m.map Char.toLower = o.toList.map Char.toLower)
    (hleft : wordBoundary before.getLast? m.head? = true)
    (hright : wordBoundary m.getLast? after.head? = true) (hne : m ≠ o.toList) :
    Misspells g text := by
  obtain ⟨s, hs, htext⟩ := Results.exists_of_any htext
  exact ⟨hops, hparts, hu, s, o, before, m, after, hs, ho, of_decide_eq_true htext, hcase, hleft,
    hright, hne⟩

/-- What is not tight stays as it is spelled. Of occurrences of an operator that overlap only the first one
is found, and where two operators overlap, the later one spells the words that they share. -/
theorem exists_not_normal : Misspells (ofOperators ["is not"]) "a IS  NOT b".toList ∧
    Misspells (ofOperators ["so and so"]) "SO AND SO AND SO".toList ∧
    Misspells (ofOperators ["Is Not", "nOT In"]) "a is not in b".toList := by
  refine ⟨?_, ?_, ?_⟩
  · exact misspells_of_prettify "is not" "a ".toList "IS NOT".toList " b".toList
      (by decide +kernel) (by decide +kernel) ⟨by decide, by decide⟩ (by decide +kernel)
      (by decide +kernel) (by decide) (by decide) (by decide) (by decide)
  · exact misspells_of_prettify "so and so" "so and ".toList "so AND SO".toList []
      (by decide +kernel) (by decide +kernel) ⟨by decide, by decide⟩ (by decide +kernel)
      (by decide +kernel) (by decide) (by decide) (by decide) (by decide)
  · exact misspells_of_prettify "Is Not" "a ".toList "Is nOT".toList " In b".toList
      (by decide +kernel) (by decide +kernel) ⟨by decide, by decide⟩ (by decide +kernel)
      (by decide +kernel) (by decide) (by decide) (by decide) (by decide)

end Annotator.Spacing
