import Annotator.Highlighter
import Annotator.Identifiers
import Annotator.Spacing
import Annotator.Proofs.Results

/-!
# Rules that annotate nothing

A grammar may have rules of kinds that are not known. They are kept, but they have no words and make no
marking, so a grammar without them gives the same results: they may stand anywhere among the other
rules, and change neither the order of these nor which of them is the first that cannot be made ready.

## Key results

- `Grammar.tokens_annotating`: the words are those of the other rules
- `Highlighter.ofVocabulary_annotating`: the highlighter, or the reason why there is none
- `Vocabulary.alike_annotating`: everything else that is asked of a vocabulary
-/

namespace Annotator

/-! ### The other rules -/

/-- Whether a rule is of a kind that annotates something. -/
def Rule.annotates : Rule → Bool
  | .other _ => false
  | _ => true

namespace Grammar

/-- The grammar without the rules that annotate nothing. -/
def annotating (g : Grammar) : Grammar := { g with rules := g.rules.filter Rule.annotates }

theorem tokens_annotating (g : Grammar) : g.annotating.tokens = g.tokens := by
  unfold annotating tokens
  induction g.rules with
  | nil => rfl
  | cons r later ih =>
    cases r with
    | keyword rule =>
      rw [List.filter_cons_of_pos rfl, List.flatMap_cons, List.flatMap_cons, ih]
    | pattern rule =>
      rw [List.filter_cons_of_pos rfl, List.flatMap_cons, List.flatMap_cons, ih]
    | other value =>
      rw [List.filter_cons_of_neg Bool.false_ne_true, List.flatMap_cons, ih]
      rfl

end Grammar

/-- The indices do not see the rules that annotate nothing. -/
theorem Vocabulary.ofGrammar_annotating (g : Grammar) :
    ofGrammar g.annotating = { ofGrammar g with grammar := g.annotating } := by
  unfold ofGrammar
  rw [Grammar.tokens_annotating]
  rfl

/-! ### Highlighters -/

/-- Of a vocabulary the markings need the display classes only. -/
theorem Marking.ofRule_congr {v w : Vocabulary} (h : v.classOf = w.classOf) (r : Rule) :
    ofRule v r = ofRule w r := by
  cases r with
  | keyword rule =>
    have hwords : WordMarking.ofToken v rule = WordMarking.ofToken w rule := by
      funext t
      rw [WordMarking.ofToken, WordMarking.ofToken, h]
    rw [ofRule, ofRule, ofKeywordRule, ofKeywordRule, hwords]
  | pattern rule =>
    have hreplacement (m : Pattern.Matcher) :
        Replacement.ofRule v m rule = Replacement.ofRule w m rule := by
      rw [Replacement.ofRule, Replacement.ofRule, h]
    simp only [ofRule, ofPatternRule, hreplacement]
  | other value => rfl

/-- A rule that cannot be made ready is named. -/
theorem Marking.name?_of_ofRule_eq_error {v : Vocabulary} {r : Rule} {e : Error}
    (h : ofRule v r = .error e) : ∃ name, r.name? = some name ∧ e = .invalidPattern name := by
  cases r with
  | keyword rule =>
    have hwords := Results.map_eq_error.mp (Results.map_eq_error.mp h)
    obtain ⟨t, -, ht⟩ := Results.exists_of_mapM_eq_error hwords
    simp only [WordMarking.ofToken] at ht
    split at ht
    · cases ht
    · cases ht
      exact ⟨rule.name, rfl, rfl⟩
  | pattern rule =>
    have hpattern := Results.map_eq_error.mp h
    unfold ofPatternRule at hpattern
    split at hpattern
    · cases hpattern
      exact ⟨rule.name, rfl, rfl⟩
    · cases hpattern
  | other value => cases h

namespace Highlighter

theorem ofVocabulary_eq (v : Vocabulary) : ofVocabulary v =
    ((v.grammar.rules.mapM (Marking.ofRule v)).map (List.filterMap id)).map Highlighter.mk := by
  unfold ofVocabulary
  cases v.grammar.rules.mapM (Marking.ofRule v) <;> rfl

theorem ofVocabulary_annotating (g : Grammar) :
    ofVocabulary (.ofGrammar g.annotating) = ofVocabulary (.ofGrammar g) := by
  have hclasses : (Vocabulary.ofGrammar g.annotating).classOf = (Vocabulary.ofGrammar g).classOf := by
    rw [Vocabulary.ofGrammar_annotating]
    rfl
  have hrules : Marking.ofRule (.ofGrammar g.annotating) = Marking.ofRule (.ofGrammar g) :=
    funext (Marking.ofRule_congr hclasses)
  -- the other rules give no marking and no error
  have hnone : ∀ r, Rule.annotates r = false → Marking.ofRule (.ofGrammar g) r = .ok none := by
    intro r hr
    cases r with
    | keyword rule => cases hr
    | pattern rule => cases hr
    | other value => rfl
  rw [ofVocabulary_eq, ofVocabulary_eq, hrules]
  exact congrArg (Except.map Highlighter.mk) (Results.filterMap_mapM_filter hnone g.rules)

/-- A highlighter that cannot be made names a rule that annotates. -/
theorem exists_of_ofVocabulary_eq_error {g : Grammar} {e : Error}
    (h : ofVocabulary (.ofGrammar g) = .error e) :
    ∃ r ∈ g.annotating.rules, ∃ name, r.name? = some name ∧ e = .invalidPattern name := by
  rw [← ofVocabulary_annotating, ofVocabulary, Results.map_eq_error] at h
  obtain ⟨r, hr, hfails⟩ := Results.exists_of_mapM_eq_error h
  exact ⟨r, hr, Marking.name?_of_ofRule_eq_error hfails⟩

end Highlighter

/-! ### Everything that is asked of a vocabulary -/

/-- Two vocabularies that answer every question alike. -/
structure Vocabulary.Alike (v w : Vocabulary) : Prop where
  /-- There is no highlighter for the same reason, or both give every text the same markup. -/
  highlight : (Highlighter.ofVocabulary v).map Highlighter.highlight =
    (Highlighter.ofVocabulary w).map Highlighter.highlight
  /-- There is no spacing for the same reason, or both give every text the same spacing. -/
  prettify : ∀ maxLineLength, (Spacing.ofVocabulary v maxLineLength).map Spacing.prettify =
    (Spacing.ofVocabulary w maxLineLength).map Spacing.prettify
  extract : Identifiers.extract v = Identifiers.extract w
  css : v.css = w.css
  groups : v.groups = w.groups
  groupsJson : v.groupsJson = w.groupsJson
  token? : v.token? = w.token?
  has : v.has = w.has
  description? : v.description? = w.description?
  tokenClass? : v.tokenClass? = w.tokenClass?
  tokensOf : v.tokensOf = w.tokensOf
  style? : v.style? = w.style?
  classOf : v.classOf = w.classOf
  stylesUnder : v.stylesUnder = w.stylesUnder
  operators : v.operators = w.operators
  functions : v.functions = w.functions
  booleans : v.booleans = w.booleans
  customKeywords : v.customKeywords = w.customKeywords
  metadata : v.metadata = w.metadata

/-- A grammar answers every question as it does without the rules that annotate nothing, wherever these
stand and whatever they hold. If it has no highlighter, the reason names one of the other rules. -/
theorem Vocabulary.alike_annotating (g : Grammar) :
    (ofGrammar g.annotating).Alike (ofGrammar g) ∧
    ∀ e, Highlighter.ofVocabulary (ofGrammar g) = .error e →
      ∃ r ∈ g.annotating.rules, ∃ name, r.name? = some name ∧ e = .invalidPattern name := by
  have hindices := ofGrammar_annotating g
  refine ⟨?_, fun e => Highlighter.exists_of_ofVocabulary_eq_error⟩
  constructor
  case highlight => rw [Highlighter.ofVocabulary_annotating]
  case prettify =>
    intro maxLineLength
    rw [hindices]
    rfl
  -- all else is read from the indices and the types
  all_goals
    rw [hindices]
    rfl

end Annotator
