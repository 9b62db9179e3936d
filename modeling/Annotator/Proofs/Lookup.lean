import Annotator.Proofs.Indices

/-!
# Looking up and scanning

What a vocabulary answers from its indices is what a scan of its grammar finds. The indices are filled
in one pass over the words, and treat words under one key in two ways: in the one by keyword the last
word replaces those before it and keeps their place, in the one by type all words stay, in order. So
a list of keywords has the place of the first word of each spelling and the spelling of the last.

## Key results

- `Vocabulary.tokensOf_ofGrammar`: the words of a type by a scan of the words
- `Vocabulary.keywordsUnder_ofGrammar`: the keywords with a parent by a scan of words and types
- `Vocabulary.lookups_ofGrammar`: every look-up is a scan
-/

namespace Annotator

namespace Grammar

/-- The last word whose keyword in lower case is `key`. -/
def lastToken? (g : Grammar) (key : String) : Option Token :=
  g.tokens.reverse.find? fun t => Text.lowercaseString t.keyword == key

/-- The last style of a class. -/
def lastStyle? (g : Grammar) (className : String) : Option TypeStyle :=
  g.types.reverse.find? fun s => s.className == className

/-- The keywords in lower case, each where it first comes. -/
def spellings (g : Grammar) : List String :=
  (g.tokens.map fun t => Text.lowercaseString t.keyword).eraseDups

/-- The keyword of the last word with a spelling, if the last style of its type has the parent. -/
def keywordUnder? (g : Grammar) (parent key : String) : Option String := do
  let t ← g.lastToken? key
  let s ← g.lastStyle? t.typeName
  if s.parent = parent then some t.keyword else none

end Grammar

namespace Vocabulary

theorem token?_ofGrammar (g : Grammar) (keyword : String) :
    (ofGrammar g).token? keyword = g.lastToken? (Text.lowercaseString keyword) := by
  have := Index.get?_foldl_put (fun t : Token => Text.lowercaseString t.keyword) g.tokens Index.empty
    (Text.lowercaseString keyword)
  rwa [Index.get?_empty, Option.or_none] at this

/-- A word is there if one of the grammar is spelled like it, up to case. -/
theorem has_ofGrammar_iff (g : Grammar) (keyword : String) :
    (ofGrammar g).has keyword = true ↔
      ∃ t ∈ g.tokens, Text.lowercaseString t.keyword = Text.lowercaseString keyword := by
  simp [has, token?_ofGrammar, Grammar.lastToken?]

/-- The index by type keeps all words of a type, in order. -/
theorem getD_get?_foldl_addToType (tokens : List Token) (i : Index (List Token)) (typeName : String) :
    ((tokens.foldl addToType i).get? typeName).getD [] =
      (i.get? typeName).getD [] ++ tokens.filter fun t => t.typeName == typeName := by
  induction tokens generalizing i with
  | nil => simp
  | cons t later ih =>
    rw [List.foldl_cons, ih, addToType]
    -- the word goes behind those of its own type, and leaves the other types alone
    by_cases h : t.typeName = typeName
    · subst h
      simp [Index.get?_put_self]
    · rw [Index.get?_put_of_ne _ _ (Ne.symm h)]
      simp [h]

theorem tokensOf_ofGrammar (g : Grammar) (typeName : String) :
    (ofGrammar g).tokensOf typeName = g.tokens.filter fun t => t.typeName == typeName := by
  have := getD_get?_foldl_addToType g.tokens Index.empty typeName
  rwa [Index.get?_empty, Option.getD_none, List.nil_append] at this

/-- Each spelling gives its keyword, in the order in which the spellings first come. -/
theorem keywordsUnder_ofGrammar (g : Grammar) (parent : String) :
    (ofGrammar g).keywordsUnder parent = g.spellings.filterMap (g.keywordUnder? parent) := by
  have hvalues : (ofGrammar g).byKeyword.values = g.spellings.filterMap g.lastToken? :=
    Index.values_foldl_put (fun t : Token => Text.lowercaseString t.keyword) g.tokens
  -- the words of the index are filtered and mapped, so it is enough to look at one spelling
  rw [keywordsUnder, hvalues, List.filter_filterMap, List.map_filterMap]
  refine List.filterMap_congr fun key _ => ?_
  rw [Grammar.keywordUnder?]
  cases g.lastToken? key with
  | none => rfl
  | some t =>
    have hstyle : (ofGrammar g).style? t.typeName = g.lastStyle? t.typeName := style?_ofGrammar g _
    cases h : g.lastStyle? t.typeName with
    | none => simp [hstyle, h]
    | some s => by_cases hp : s.parent = parent <;> simp [hstyle, h, hp]

/-- Every look-up in the indices of a grammar is a plain scan of the grammar: for a word, whatever its
case, the last one with its spelling; for a type all its words, in order; for a class its last style;
and for the operators and the functions, of each spelling, in the order in which the spellings first
come, the keyword of the last word, if the last style of that word's type has the right parent. -/
theorem lookups_ofGrammar (g : Grammar) :
    (∀ keyword, (ofGrammar g).token? keyword =
      g.tokens.reverse.find? fun t =>
        Text.lowercaseString t.keyword == Text.lowercaseString keyword) ∧
    (∀ keyword, (ofGrammar g).has keyword = true ↔
      ∃ t ∈ g.tokens, Text.lowercaseString t.keyword = Text.lowercaseString keyword) ∧
    (∀ typeName, (ofGrammar g).tokensOf typeName =
      g.tokens.filter fun t => t.typeName == typeName) ∧
    (∀ className, (ofGrammar g).style? className =
      g.types.reverse.find? fun s => s.className == className) ∧
    (ofGrammar g).operators = g.spellings.filterMap (g.keywordUnder? "Operator") ∧
    (ofGrammar g).functions = g.spellings.filterMap (g.keywordUnder? "Function") :=
  ⟨token?_ofGrammar g, has_ofGrammar_iff g, tokensOf_ofGrammar g, style?_ofGrammar g,
    keywordsUnder_ofGrammar g operatorParent, keywordsUnder_ofGrammar g functionParent⟩

end Vocabulary

end Annotator
