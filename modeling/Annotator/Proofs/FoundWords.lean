import Annotator.Proofs.JoinedForms
import Annotator.Proofs.KeywordSearch
import Annotator.Proofs.Lookup
import Annotator.Proofs.SmallForms
import Annotator.Proofs.Spans

/-!
# Words that are found and words that are known

A word whose case does not count is found in a text in each of its spellings, which are told character
by character. A vocabulary knows the words that have the lowercase of one of its own. So what is found
for a word may be unknown: where the spellings of the word have more than one lowercase, which is where
a letter of it has two small forms.

## Key results

- `Grammar.Found.spelled`, `Grammar.found_ofWord`: what is found is spelled like the word, and each
  spelling is found
- `Vocabulary.has_found_iff`: the words all of whose finds are known, in every grammar
- `Vocabulary.exists_found_not_has`: a find that is not known
-/

namespace Annotator

open Spacing (Spelled)

namespace Keyword

variable {k : Keyword} {text m : List Char}

/-- What is found for a keyword whose case does not count is a spelling of it. -/
theorem spelled_of_mem_hits (hk : k.exact = false) (h : m ∈ (k.search.cut text).hits) :
    Spelled k.text m := by
  obtain ⟨prev, rest, n, hfront, rfl⟩ := Search.exists_of_mem_hits_cutFrom h
  obtain ⟨rfl, m, after, rfl, hsame, -⟩ := front_eq_some_iff.mp hfront
  rw [hsame.length_eq, List.take_left]
  apply hsame.imp
  intro a b hab
  rwa [sameChar, hk] at hab

/-- A keyword that can be searched for between bounds can be searched for without them. -/
theorem isSearchable_unbounded (h : k.isSearchable = true) :
    isSearchable ⟨k.text, k.exact, false⟩ = true := by
  rw [isSearchable, Pattern.Form.areSearchable_iff] at h ⊢
  have hforms : forms ⟨k.text, k.exact, false⟩ = k.text.map (Pattern.Form.ofChar !k.exact) := by
    simp [forms]
  rw [forms, Pattern.Form.byParts_memory.append, Pattern.Form.byParts_memory.append] at h
  rw [hforms]
  omega

/-- A keyword that is not bounded finds each of its spellings. -/
theorem mem_hits_of_spelled (hne : k.text ≠ []) (hk : k.exact = false) (hbounded : k.bounded = false)
    (h : Spelled k.text m) : m ∈ (k.search.cut m).hits := by
  have hfront : k.front none m = some m.length := by
    refine front_eq_some_iff.mpr ⟨h.length_eq, m, [], (List.append_nil m).symm, ?_, ?_⟩
    · apply List.Forall₂.imp _ h
      intro a b hab
      rwa [sameChar, hk]
    · intro hbounded'
      rw [hbounded] at hbounded'
      cases hbounded'
  rw [search, Search.cut_ofFront, Search.scan_of_some (front_proper hne) hfront, List.take_length]
  exact List.mem_cons_self

end Keyword

/-! ### What a grammar finds -/

namespace Grammar

/-- The search for a word of a grammar, in a rule that does not count the case of its words, finds
some characters in a text. -/
inductive Found (g : Grammar) : String → List Char → Prop
  | of_hit {rule : KeywordRule} {token : Token} {w : WordMarking} {text m : List Char}
      (rule_mem : .keyword rule ∈ g.rules) (token_mem : token ∈ rule.tokens)
      (ignores_case : rule.caseSensitive = false)
      (marking_eq : WordMarking.ofToken (Vocabulary.ofGrammar g) rule token = .ok w)
      (hit_mem : m ∈ (w.keyword.search.cut text).hits) : Found g token.keyword m

variable {g : Grammar} {keyword : String} {m : List Char}

/-- A word that is searched for can be searched for. -/
theorem Found.isSearchable (h : Found g keyword m) :
    Keyword.isSearchable ⟨keyword.toList, false, false⟩ = true := by
  cases h with
  | @of_hit rule token w text m _ _ ignores_case marking_eq _ =>
    rw [WordMarking.ofToken] at marking_eq
    split at marking_eq
    · rename_i hsearchable
      have hexact : (WordMarking.keywordOf rule token).exact = false := ignores_case
      have hunbounded := Keyword.isSearchable_unbounded hsearchable
      rwa [hexact] at hunbounded
    · cases marking_eq

/-- What is found for a word is a spelling of it. -/
theorem Found.spelled (h : Found g keyword m) : Spelled keyword.toList m := by
  cases h with
  | @of_hit rule token w text m _ _ ignores_case marking_eq hit_mem =>
    obtain rfl := WordMarking.ofToken_eq_ok marking_eq
    exact Keyword.spelled_of_mem_hits ignores_case hit_mem

/-- A word that something is found for is one of the grammar. -/
theorem Found.exists_token (h : Found g keyword m) : ∃ t ∈ g.tokens, t.keyword = keyword := by
  cases h with
  | of_hit rule_mem token_mem =>
    exact ⟨_, List.mem_flatMap.mpr ⟨_, rule_mem, token_mem⟩, rfl⟩

/-- A grammar with one word. -/
def ofWord (keyword : String) : Grammar :=
  { Grammar.empty with
    rules := [.keyword ⟨"words", false, false, [⟨keyword, "Word", "a word"⟩]⟩]
    types := [⟨"Word", "blue", "Text", none, none⟩] }

/-- Each spelling of the word of a grammar is found. -/
theorem found_ofWord (hne : keyword.toList ≠ [])
    (hs : Keyword.isSearchable ⟨keyword.toList, false, false⟩ = true) (hm : Spelled keyword.toList m) :
    Found (ofWord keyword) keyword m := by
  let token : Token := ⟨keyword, "Word", "a word"⟩
  let rule : KeywordRule := ⟨"words", false, false, [token]⟩
  have hrule : .keyword rule ∈ (ofWord keyword).rules := List.mem_cons_self
  have htoken : token ∈ rule.tokens := List.mem_cons_self
  have hmarking : WordMarking.ofToken (Vocabulary.ofGrammar (ofWord keyword)) rule token =
      .ok ⟨WordMarking.keywordOf rule token, _, _⟩ := if_pos hs
  exact Found.of_hit hrule htoken rfl hmarking (Keyword.mem_hits_of_spelled hne rfl rfl hm)

end Grammar

/-! ### What a vocabulary knows -/

namespace Vocabulary

open Grammar (Found)

/-- Whatever is found for a word is known, in every grammar, just if no letter of the word has two
small forms; but a word may be too long to be searched for. -/
theorem has_found_iff (keyword : String) :
    (∀ (g : Grammar) (m : List Char), Found g keyword m →
        (ofGrammar g).has (String.ofList m) = true) ↔
      (∀ c ∈ keyword.toList, ¬ Text.HasTwoForms c) ∨
        Keyword.isSearchable ⟨keyword.toList, false, false⟩ = false := by
  constructor
  · intro h
    by_cases hs : Keyword.isSearchable ⟨keyword.toList, false, false⟩ = true
    · left
      rw [← Text.lowercase_congr_iff]
      intro m hm
      by_cases hne : keyword.toList = []
      · rw [hne] at hm ⊢
        rw [List.forall₂_nil_left_iff.mp hm]
      · have hhas := h _ m (Grammar.found_ofWord hne hs hm)
        obtain ⟨t, ht, heq⟩ := (has_ofGrammar_iff _ _).mp hhas
        -- the grammar has no word but the one
        obtain rfl := List.mem_singleton.mp ht
        have := congrArg String.toList heq
        simpa [Text.lowercaseString] using this.symm
    · right
      rwa [Bool.not_eq_true] at hs
  · intro h g m hm
    rcases h with hword | hs
    · obtain ⟨t, ht, rfl⟩ := hm.exists_token
      refine (has_ofGrammar_iff g _).mpr ⟨t, ht, ?_⟩
      rw [Text.lowercaseString, Text.lowercaseString, String.toList_ofList,
        (Text.lowercase_congr_iff _).mpr hword m hm.spelled]
    · rw [hm.isSearchable] at hs
      cases hs

/-- The capital letter of the micro sign is found for the micro sign and is not known: it is that of
the letter mu as well, which is its lowercase. -/
theorem exists_found_not_has : ∃ (g : Grammar) (keyword : String) (m : List Char),
    keyword ≠ "" ∧ Found g keyword m ∧ (ofGrammar g).has (String.ofList m) = false :=
  ⟨.ofWord "\u00B5", "\u00B5", ['\u039C'], by decide,
    Grammar.found_ofWord (by decide) (by decide +kernel) (.cons (by decide +kernel) .nil),
    by decide +kernel⟩

/-- Of the letters of ASCII only the s has two small forms. -/
example : ((List.range 128).map Char.ofNat).filter Text.HasTwoForms = ['S', 's'] := by
  decide +kernel

end Vocabulary

end Annotator
