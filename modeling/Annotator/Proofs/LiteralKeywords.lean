import Annotator.Identifiers
import Annotator.Marking
import Annotator.Proofs.EscapedPatterns
import Annotator.Proofs.KeywordSearch
import Annotator.Proofs.Spans
import Annotator.Spacing

/-!
# Keywords are found literally

A keyword is searched for by a pattern that is put together from the escaped text of the keyword:
with a boundary of words at either end or not, in a group of its own or not, and with blanks around
it for an operator. Whatever characters the keyword has, the pattern is well formed and is read as the
forms of the keyword itself. So it has a matcher just if the keyword can be searched for, and a search
for it cuts a text at the leftmost places where the keyword stands.

## Key results

- `Leftmost`, `StandsAt`: where a search has to cut a text
- `Keyword.cut_eq_iff`: the search for a keyword cuts a text there, and nowhere else
- `Pattern.exists_lines_forms`: the forms of a keyword are items that find it
- `WordMarking.readAs_patternOf`, `Identifiers.readAs_patternOf`, `Spacing.readAs_patternOf`: the three
  patterns that are put together from a keyword are read as its forms
- `WordMarking.finds_literally`: keywords are found literally
-/

namespace Annotator

open Search (lastOf)

/-! ### Leftmost matches -/

/-- A cut at the leftmost places of some kind that do not overlap: each hit is such a place, no such
place begins between it and the hit before it, and none is left behind the last hit. A place is told
by the text before it, its own text and the text behind it; `before` is what stands before the text
that is cut. -/
inductive Leftmost (place : List Char → List Char → List Char → Prop) : List Char → Cut → Prop
  | rest {before t : List Char}
      (nothing : ∀ b m a, t = b ++ m ++ a → ¬ place (before ++ b) m a) :
      Leftmost place before (.rest t)
  | hit {before b m : List Char} {c : Cut} (found : place (before ++ b) m c.text)
      (first : ∀ b' m' a', b ++ m ++ c.text = b' ++ m' ++ a' → place (before ++ b') m' a' →
        b.length ≤ b'.length)
      (later : Leftmost place (before ++ b ++ m) c) : Leftmost place before (.hit b m [] c)

/-- If all places of some kind are of the same length, there is no more than one way to cut a text
at the leftmost ones. -/
theorem Leftmost.unique {place : List Char → List Char → List Char → Prop} {n : Nat}
    (hlen : ∀ {b m a}, place b m a → m.length = n) {before : List Char} {c d : Cut}
    (hc : Leftmost place before c) (hd : Leftmost place before d) (htext : c.text = d.text) :
    c = d := by
  induction hc generalizing d with
  | rest nothing =>
    cases hd with
    | rest _ => exact congrArg Cut.rest htext
    | hit found _ _ => exact absurd found (nothing _ _ _ htext)
  | hit found first _ ih =>
    cases hd with
    | rest nothing => exact absurd found (nothing _ _ _ htext.symm)
    | hit found' first' later' =>
      rw [Cut.text_hit, Cut.text_hit] at htext
      -- neither hit begins before the other, and both are of the same length
      have hb := Nat.le_antisymm (first _ _ _ htext found') (first' _ _ _ htext.symm found)
      rw [List.append_assoc, List.append_assoc] at htext
      obtain ⟨rfl, hbehind⟩ := List.append_inj htext hb
      obtain ⟨rfl, hrest⟩ := List.append_inj hbehind ((hlen found).trans (hlen found').symm)
      rw [ih later' hrest]

/-- A place in a text where a word stands: as many characters as the word has, each the one that the
word has there or, if the case does not count, a spelling of it. If the place has to be bounded, one
of the two neighbours is a character of ASCII words at both ends, and the other is not. -/
structure StandsAt (word : List Char) (exact : Bool) (bounded : Prop)
    (before matched after : List Char) : Prop where
  same : List.Forall₂ (fun a b => if exact then a = b else Text.foldEq a b = true) word matched
  bounds : bounded → Text.wordBoundary before.getLast? matched.head? = true ∧
    Text.wordBoundary matched.getLast? after.head? = true

theorem StandsAt.length_eq {word : List Char} {exact : Bool} {bounded : Prop}
    {before m a : List Char} (h : StandsAt word exact bounded before m a) :
    m.length = word.length :=
  h.same.length_eq.symm

theorem StandsAt.ne_nil {word : List Char} (hword : word ≠ []) {exact : Bool} {bounded : Prop}
    {before m a : List Char} (h : StandsAt word exact bounded before m a) : m ≠ [] :=
  List.ne_nil_of_length_pos (h.length_eq ▸ List.length_pos_iff.mpr hword)

namespace Keyword

/-- A place in a text where a keyword stands. -/
def Occurs (k : Keyword) : List Char → List Char → List Char → Prop :=
  StandsAt k.text k.exact (k.bounded = true)

variable {k : Keyword}

theorem sameChar_iff {a b : Char} :
    k.sameChar a b = true ↔ if k.exact then a = b else Text.foldEq a b = true := by
  unfold sameChar
  split
  · exact beq_iff_eq
  · rfl

theorem occurs_iff (hk : k.text ≠ []) {before m a : List Char} :
    k.Occurs before m a ↔ k.front before.getLast? (m ++ a) = some m.length := by
  have hchar : (fun a b => k.sameChar a b = true) =
      fun a b => if k.exact then a = b else Text.foldEq a b = true := by
    funext a b
    exact propext sameChar_iff
  have hbounds {m : List Char} (a : List Char) (hm : m ≠ []) :
      (m ++ a).head? = m.head? ∧ lastOf before.getLast? m = m.getLast? :=
    ⟨List.head?_append_of_ne_nil _ hm, Search.lastOf_of_ne_nil hm _⟩
  rw [front_append_eq_some_iff]
  constructor
  · intro h
    have hm := h.ne_nil hk
    rw [hchar, (hbounds a hm).1, (hbounds a hm).2]
    exact ⟨h.same, h.bounds⟩
  · rintro ⟨hsame, hbound⟩
    have hm := ne_nil_of_matched hk hsame
    rw [(hbounds a hm).1, (hbounds a hm).2] at hbound
    exact ⟨hchar ▸ hsame, hbound⟩

/-- Reading a text from left to right finds a keyword at the leftmost places where it stands. -/
theorem leftmost_of_scanned (hk : k.text ≠ []) {before : List Char} {text : List Char} {c : Cut}
    (h : Search.Scanned k.front before.getLast? text c) : Leftmost k.Occurs before c := by
  have hplace {before b m a : List Char} : k.Occurs (before ++ b) m a ↔
      k.front (lastOf before.getLast? b) (m ++ a) = some m.length := by
    rw [occurs_iff hk, List.getLast?_append, lastOf]
  generalize hprev : before.getLast? = prev at h
  induction h generalizing before with
  | rest nothing =>
    refine .rest fun b m a heq hfound => ?_
    have hnone := nothing b (m ++ a) (heq.trans (List.append_assoc b m a))
      (List.append_ne_nil_of_left_ne_nil (StandsAt.ne_nil hk hfound) a)
    rw [← hprev, hplace.mp hfound] at hnone
    cases hnone
  | @hit prev b m r c nothing found later ih =>
    obtain rfl := later.text_eq
    refine .hit (hplace.mpr (hprev ▸ found)) (fun b' m' a' heq hfound => ?_) (ih ?_)
    · by_contra hlt
      rw [List.append_assoc, List.append_assoc] at heq
      -- a place that begins before the hit begins where the search has found nothing
      obtain ⟨y, rfl⟩ : b' <+: b :=
        List.prefix_of_prefix_length_le ⟨m' ++ a', heq.symm⟩ ⟨m ++ c.text, rfl⟩ (by omega)
      have hy : y ≠ [] := by
        rintro rfl
        simp at hlt
      rw [List.append_assoc] at heq
      have hnone := nothing b' y rfl hy
      rw [List.append_cancel_left heq, ← hprev, hplace.mp hfound] at hnone
      cases hnone
    · rw [List.append_assoc, List.getLast?_append, hprev, lastOf]

/-- A keyword is found at the leftmost places where it stands, and nowhere else. -/
theorem cut_eq_iff (hk : k.text ≠ []) {text : List Char} {c : Cut} :
    k.search.cut text = c ↔ c.text = text ∧ Leftmost k.Occurs [] c := by
  have hcut : Leftmost k.Occurs [] (k.search.cut text) :=
    leftmost_of_scanned hk (Search.scanned (front_proper hk) none text)
  constructor
  · rintro rfl
    exact ⟨Search.text_cut k.search text, hcut⟩
  · rintro ⟨htext, hc⟩
    refine Leftmost.unique StandsAt.length_eq hcut hc ?_
    rw [Search.text_cut, htext]

end Keyword

/-! ### Items that stand for a keyword -/

namespace Pattern

theorem holds_boundary (prev next : Option Char) :
    (Look.word .boundary false).holds prev next = Text.wordBoundary prev next := by
  simp [Look.holds, isWordAt, Text.wordBoundary]

/-- Items that stand for the characters of a word find it, and those behind them what follows. -/
theorem lineFront_append {ignoreCase : Bool} {word : List Char} {items : List Item}
    (h : List.Forall₂ (Item.StandsFor ignoreCase) word items) (behind : List Item)
    (prev : Option Char) (text : List Char) :
    lineFront (items ++ behind) prev text =
      (Keyword.strip (same ignoreCase) word text).bind fun rest =>
        (lineFront behind (lastOf prev (text.take word.length)) rest).map (· + word.length) := by
  induction h generalizing prev text with
  | nil => simp [Keyword.strip]
  | @cons c item word items hitem _ ih =>
    cases text with
    | nil => exact lineFront_item_nil hitem.isLook _ prev
    | cons d text =>
      rw [List.cons_append, lineFront_item_cons hitem.isLook, hitem.accepts, ih, Keyword.strip,
        List.length_cons, List.take_succ_cons, Search.lastOf_cons]
      split
      · cases Keyword.strip (same ignoreCase) word text <;> simp [Function.comp_def, Nat.add_assoc]
      · rfl

/-- The characters of a text are found by items that stand for them. -/
theorem exists_lines_ofChar (ignoreCase : Bool) (text : List Char) :
    ∃ items, Form.lines? (text.map (Form.ofChar ignoreCase)) = some items ∧
      List.Forall₂ (Item.StandsFor ignoreCase) text items := by
  induction text with
  | nil => exact ⟨[], rfl, .nil⟩
  | cons c text ih =>
    obtain ⟨items, hitems, hsame⟩ := ih
    obtain ⟨item, hitem, hstands⟩ := exists_line_ofChar ignoreCase c
    exact ⟨item :: items, Form.lines?_cons_eq_some.mpr ⟨[item], items, hitem, hitems, rfl⟩,
      .cons hstands hsame⟩

/-- A keyword is found by items that stand for its characters, and, if it is bounded, are themselves
between boundaries of words. -/
theorem lineFront_eq_front {k : Keyword} {items : List Item}
    (h : List.Forall₂ (Item.StandsFor (!k.exact)) k.text items) {bound : List Item}
    (hbound : bound = if k.bounded then [.look (.word .boundary false)] else []) :
    lineFront (bound ++ (items ++ bound)) = k.front := by
  have hsame : same (!k.exact) = k.sameChar := by
    funext a b
    cases hk : k.exact <;> simp [same, Keyword.sameChar, hk]
  subst hbound
  funext prev text
  rw [Keyword.front]
  cases hb : k.bounded with
  | false =>
    have hfront := lineFront_append h [] prev text
    rw [List.append_nil, hsame] at hfront
    simp only [Bool.false_eq_true, if_false, List.nil_append, List.append_nil, hfront]
    cases Keyword.strip k.sameChar k.text text <;> simp [lineFront]
  | true =>
    simp only [if_true, List.singleton_append, lineFront, holds_boundary, lineFront_append h, hsame]
    cases Keyword.strip k.sameChar k.text text with
    | none => simp
    | some rest =>
      cases Text.wordBoundary prev text.head? <;>
        cases Text.wordBoundary (lastOf prev (text.take k.text.length)) rest.head? <;> simp

/-- The forms of a keyword are items that find it. -/
theorem exists_lines_forms (k : Keyword) :
    ∃ items, Form.lines? k.forms = some items ∧ lineFront items = k.front := by
  obtain ⟨items, hitems, hsame⟩ := exists_lines_ofChar (!k.exact) k.text
  refine ⟨_, ?_, lineFront_eq_front hsame rfl⟩
  have hbound : Form.lines? (if k.bounded then [.look (.word .boundary false)] else []) =
      some (if k.bounded then [.look (.word .boundary false)] else []) := by
    cases k.bounded <;> rfl
  exact Form.lines?_append_eq_some.mpr ⟨_, _, hbound,
    Form.lines?_append_eq_some.mpr ⟨_, _, hitems, hbound, rfl⟩, rfl⟩

/-- A pattern that is well formed, so that only its size can keep it from being searched for. -/
def WellFormed (ignoreCase : Bool) (pattern : List Char) : Prop :=
  ∃ f, Form.read? ignoreCase pattern = some f ∧
    (Matcher.build? ignoreCase pattern = none ↔ Form.memoryLimit < f.memory)

namespace ReadAs

variable {ignoreCase : Bool} {pattern : List Char}

theorem wellFormed {fs : List Form} (h : ReadAs ignoreCase pattern fs) :
    WellFormed ignoreCase pattern := by
  obtain ⟨f, hf, -⟩ := h
  exact ⟨f, hf, Matcher.build?_eq_none_iff hf⟩

/-- A pattern that is read as the forms of a keyword finds what the keyword finds. -/
theorem search_eq_search {k : Keyword} (h : ReadAs ignoreCase pattern k.forms) {m : Matcher}
    (hm : Matcher.build? ignoreCase pattern = some m) : m.search = k.search := by
  obtain ⟨items, hitems, hfront⟩ := exists_lines_forms k
  rw [h.search_eq hitems hm, hfront, Keyword.search]

end ReadAs

end Pattern

/-! ### The patterns of keywords -/

open Pattern

/-- The pattern of a word of a rule. -/
def WordMarking.patternOf (rule : KeywordRule) (token : Token) : List Char :=
  let text := token.keyword.toList
  if rule.wordBoundaries && !isSentinel text then
    boundary ++ ("(?:".toList ++ escape text ++ [')'] ++ boundary)
  else escape text

/-- The pattern of a known word. -/
def Identifiers.patternOf (word : String) : List Char :=
  boundary ++ (escape word.toList ++ boundary)

/-- The pattern of an operator. -/
def Spacing.patternOf (operator : String) : List Char :=
  blanks ++ (boundary ++ (escape operator.toList ++ (boundary ++ blanks)))

theorem depthOf_boundaries {ts : List Tree} (h : Tree.depthOf ts ≤ 2) :
    Tree.depthOf ([boundaryTree] ++ (ts ++ [boundaryTree])) < maxDepth := by
  have hboundary : Tree.depthOf [boundaryTree] = 1 := rfl
  rw [Tree.depthOf_append, Tree.depthOf_append, hboundary, maxDepth]
  omega

/-- The pattern of a word of a rule is read as the keyword that stands for it. -/
theorem WordMarking.readAs_patternOf (rule : KeywordRule) (token : Token) :
    ReadAs (!rule.caseSensitive) (patternOf rule token) (keywordOf rule token).forms := by
  have hletters := AmountTo.literals (!rule.caseSensitive) token.keyword.toList
  have hdepth := Tree.depthOf_literals token.keyword.toList
  rw [patternOf, keywordOf, Keyword.forms]
  split
  · rename_i hb
    rw [hb]
    refine (Reads.boundary.append ((Reads.escape _).group.append Reads.boundary)).readAs
      (depthOf_boundaries ?_) (AmountTo.boundary.append (hletters.group.append AmountTo.boundary))
    have hgroup := Tree.depth_ofItems_le (literals token.keyword.toList)
    rw [hdepth] at hgroup
    exact Nat.max_le.mpr ⟨Nat.succ_le_succ hgroup, Nat.zero_le 2⟩
  · rename_i hb
    rw [Bool.not_eq_true] at hb
    rw [hb]
    have hread := (Reads.escape token.keyword.toList).readAs (by rw [hdepth]; decide) hletters
    simpa using hread

/-- The pattern of a known word is read as the keyword that stands for it. -/
theorem Identifiers.readAs_patternOf (word : String) :
    ReadAs true (patternOf word) (keyword word).forms := by
  refine (Reads.boundary.append ((Reads.escape _).append Reads.boundary)).readAs
    (depthOf_boundaries ?_)
    (AmountTo.boundary.append ((AmountTo.literals true word.toList).append AmountTo.boundary))
  rw [Tree.depthOf_literals]
  exact Nat.zero_le 2

/-- The pattern of an operator is read as the keyword that stands for it between blanks. -/
theorem Spacing.readAs_patternOf (operator : String) :
    ReadAs true (patternOf operator) (forms operator) := by
  have hforms : forms operator = [anyBlanks] ++ ([.look (.word .boundary false)] ++
      (operator.toList.map (Form.ofChar true) ++ ([.look (.word .boundary false)] ++
        [anyBlanks]))) := by
    simp [forms, keyword, Keyword.forms]
  rw [hforms]
  refine (Reads.blanks.append (Reads.boundary.append ((Reads.escape _).append
    (Reads.boundary.append Reads.blanks)))).readAs ?_
    (AmountTo.blanks.append (AmountTo.boundary.append ((AmountTo.literals true _).append
      (AmountTo.boundary.append AmountTo.blanks))))
  have hdepths : Tree.depthOf [blanksTree] = 1 ∧ Tree.depthOf [boundaryTree] = 1 := ⟨rfl, rfl⟩
  simp only [Tree.depthOf_append, Tree.depthOf_literals, hdepths]
  decide

/-- A search that cuts every text at the leftmost places where a word stands, and nowhere else. -/
def Search.FindsWord (s : Search) (word : List Char) (exact : Bool) (bounded : Prop) : Prop :=
  ∀ text c, s.cut text = c ↔ c.text = text ∧ Leftmost (StandsAt word exact bounded) [] c

theorem Keyword.findsWord {k : Keyword} (hk : k.text ≠ []) :
    k.search.FindsWord k.text k.exact (k.bounded = true) :=
  fun _ _ => cut_eq_iff hk

namespace WordMarking

/-- Whether the words that are found for a token have to be bounded: the rule asks for it, and the
keyword does not begin with a mark that is looked for anywhere. -/
def IsBounded (rule : KeywordRule) (token : Token) : Prop :=
  rule.wordBoundaries = true ∧ ∀ c, token.keyword.toList.head? = some c → c ∉ ['@', '$', '%']

theorem bounded_keywordOf (rule : KeywordRule) (token : Token) :
    ((keywordOf rule token).bounded = true) = IsBounded rule token := by
  rw [keywordOf, IsBounded, Bool.and_eq_true, Bool.not_eq_true', isSentinel]
  refine propext (and_congr_right fun _ => ?_)
  cases token.keyword.toList.head? with
  | none => simp
  | some c => simp [sentinels]

theorem findsWord_keywordOf (rule : KeywordRule) {token : Token} (hword : token.keyword ≠ "") :
    (keywordOf rule token).search.FindsWord token.keyword.toList rule.caseSensitive
      (IsBounded rule token) := by
  have h := Keyword.findsWord (k := keywordOf rule token) fun h =>
    hword (String.toList_eq_nil_iff.mp h)
  rwa [bounded_keywordOf] at h

/-- A word of a rule has a marking just if its keyword can be searched for. -/
theorem isSearchable_iff_ofToken (v : Vocabulary) (rule : KeywordRule) (token : Token) :
    (keywordOf rule token).isSearchable = true ↔ ∃ w, ofToken v rule token = .ok w := by
  rw [ofToken]
  split
  · rename_i h
    exact iff_of_true h ⟨_, rfl⟩
  · rename_i h
    exact iff_of_false h fun ⟨w, hw⟩ => by cases hw

/-- Keywords are found literally. The patterns of a keyword that is not empty are well formed,
whatever characters it has, and they have matchers just if the keyword can be searched for. Those of a
rule and of a known word, as well as the searches that stand for them, cut every text at the leftmost
places where the keyword itself stands: bounded for a known word, and for a rule as it asks. The marking
of a rule puts just these places in spans, as they are, and leaves the rest alone. -/
theorem finds_literally (v : Vocabulary) (rule : KeywordRule) (token : Token)
    (hword : token.keyword ≠ "") :
    (WellFormed (!rule.caseSensitive) (patternOf rule token) ∧
      WellFormed true (Identifiers.patternOf token.keyword) ∧
      WellFormed true (Spacing.patternOf token.keyword)) ∧
    ((Matcher.build? (!rule.caseSensitive) (patternOf rule token)).isSome =
        (keywordOf rule token).isSearchable ∧
      (Matcher.build? true (Identifiers.patternOf token.keyword)).isSome =
        (Identifiers.keyword token.keyword).isSearchable ∧
      (Matcher.build? true (Spacing.patternOf token.keyword)).isSome =
        Spacing.isSearchable token.keyword) ∧
    (∀ m, Matcher.build? (!rule.caseSensitive) (patternOf rule token) = some m →
      m.search.FindsWord token.keyword.toList rule.caseSensitive (IsBounded rule token)) ∧
    (∀ m, Matcher.build? true (Identifiers.patternOf token.keyword) = some m →
      m.search.FindsWord token.keyword.toList false True) ∧
    (keywordOf rule token).search.FindsWord token.keyword.toList rule.caseSensitive
      (IsBounded rule token) ∧
    (Identifiers.keyword token.keyword).search.FindsWord token.keyword.toList false True ∧
    ((keywordOf rule token).isSearchable = true ↔ ∃ w, ofToken v rule token = .ok w) ∧
    ∀ w, ofToken v rule token = .ok w → ∀ text, ∃ c, c.text = text ∧
      Leftmost (StandsAt token.keyword.toList rule.caseSensitive (IsBounded rule token)) [] c ∧
      w.apply text = c.replace fun matched _ => w.opening ++ matched ++ "</span>".toList := by
  have hrule := findsWord_keywordOf rule hword
  have hknown : (Identifiers.keyword token.keyword).search.FindsWord token.keyword.toList false
      True := by
    have h := Keyword.findsWord (k := Identifiers.keyword token.keyword) fun h =>
      hword (String.toList_eq_nil_iff.mp h)
    rwa [eq_true (show (Identifiers.keyword token.keyword).bounded = true from rfl)] at h
  have hpattern := readAs_patternOf rule token
  have hpattern' := Identifiers.readAs_patternOf token.keyword
  have hoperator := Spacing.readAs_patternOf token.keyword
  refine ⟨⟨hpattern.wellFormed, hpattern'.wellFormed, hoperator.wellFormed⟩,
    ⟨hpattern.isSome_build?, hpattern'.isSome_build?, hoperator.isSome_build?⟩, fun m hm => ?_,
    fun m hm => ?_, hrule, hknown, isSearchable_iff_ofToken v rule token, fun w hw text => ?_⟩
  · rwa [hpattern.search_eq_search hm]
  · rwa [hpattern'.search_eq_search hm]
  · obtain ⟨htext, hleft⟩ := (hrule text _).mp rfl
    exact ⟨_, htext, hleft, by rw [apply, ofToken_eq_ok hw, standard]⟩

/-- A full stop stands for itself alone, and letters for either case. -/
theorem finds_literally_sample :
    let v := Vocabulary.ofGrammar .empty
    let token : Token := ⟨"C.b", "Name", "a name"⟩
    let rule : KeywordRule := ⟨"names", false, true, [token]⟩
    let found : Cut := .hit [] "c.B".toList [] (.rest " cxb".toList)
    token.keyword ≠ "" ∧ patternOf rule token = "(?-u:\\b)(?:C\\.b)(?-u:\\b)".toList ∧
      WellFormed true (patternOf rule token) ∧
      Leftmost (StandsAt "C.b".toList false (IsBounded rule token)) [] found ∧
      ∃ w, ofToken v rule token = .ok w ∧ w.apply "c.B cxb".toList =
        found.replace fun matched _ => w.opening ++ matched ++ "</span>".toList := by
  intro v token rule found
  have hne : token.keyword ≠ "" := by decide
  have hpattern : patternOf rule token = "(?-u:\\b)(?:C\\.b)(?-u:\\b)".toList := by
    unfold rule token
    decide +kernel
  have hcut : (keywordOf rule token).search.cut "c.B cxb".toList = found := by
    unfold rule token found
    decide +kernel
  have hsearchable : (keywordOf rule token).isSearchable = true := by
    unfold rule token
    decide +kernel
  obtain ⟨⟨hformed, -⟩, -, -, -, hrule, -, hready, happly⟩ := finds_literally v rule token hne
  obtain ⟨w, hw⟩ := hready.mp hsearchable
  obtain ⟨c, htext, hc, hmarked⟩ := happly w hw "c.B cxb".toList
  -- there is only one cut at the leftmost places
  obtain rfl : found = c := hcut.symm.trans ((hrule _ c).mpr ⟨htext, hc⟩)
  exact ⟨hne, hpattern, hformed, hc, w, hw, hmarked⟩

end WordMarking

end Annotator
