import Annotator.Proofs.Joints
import Annotator.Proofs.SpacedRuns

/-!
# The order of keywords

Where keywords are made of word characters, neither regular spacing nor the names of an expression depend
on the order in which a grammar has its keywords. Known words are deleted run by run: a run goes if it
spells any of them. Operators are spaced out run by run, too, and no two of a grammar are spelled alike.

## Key results

- `Identifiers.withoutWords_congr`: deleting known words depends on which words there are
- `Spacing.prettify_perm`: regular spacing does not depend on the order of operators
- `Vocabulary.prettify_extract_congr`: both for two grammars
-/

namespace Annotator

open Spacing (Spelled Usual)
open Text (IsRun)

/-! ### Known words -/

namespace Identifiers

/-- A run is deleted if it spells some known word. -/
theorem withoutWords_of_spelled {words : List String} (hwords : ∀ w ∈ words, IsRun w.toList)
    {m : List Char} (hm : IsRun m) (h : ∃ w ∈ words, Spelled w.toList m) : withoutWords words m = [] := by
  induction words with
  | nil =>
    obtain ⟨w, hw, -⟩ := h
    cases hw
  | cons w later ih =>
    obtain ⟨hw, hlater⟩ := List.forall_mem_cons.mp hwords
    rw [withoutWords_cons, delete]
    by_cases hspelled : Spelled w.toList m
    · rw [Keyword.cut_of_spells (k := keyword w) hw.ne_nil hm hspelled]
      exact List.eq_nil_of_subset_nil (withoutWords_sublist later []).subset
    · obtain ⟨w', hw', hspelled'⟩ := h
      rw [Keyword.cut_of_not_spells (k := keyword w) hw.ne_nil rfl hm hspelled]
      refine ih hlater ⟨w', ?_, hspelled'⟩
      rcases List.mem_cons.mp hw' with rfl | hw'
      · exact absurd hspelled' hspelled
      · exact hw'

/-- A run that spells no known word is left. -/
theorem withoutWords_of_not_spelled {words : List String} (hwords : ∀ w ∈ words, IsRun w.toList)
    {m : List Char} (hm : IsRun m) (h : ∀ w ∈ words, ¬ Spelled w.toList m) : withoutWords words m = m := by
  induction words with
  | nil => rfl
  | cons w later ih =>
    obtain ⟨hw, hlater⟩ := List.forall_mem_cons.mp hwords
    obtain ⟨hspelled, h⟩ := List.forall_mem_cons.mp h
    rw [withoutWords_cons, delete, Keyword.cut_of_not_spells (k := keyword w) hw.ne_nil rfl hm hspelled]
    exact ih hlater h

/-- What is left of a usual text does not depend on the order of the known words, nor on how often one of
them occurs. -/
theorem withoutWords_congr {words words' : List String} (hset : ∀ w, w ∈ words ↔ w ∈ words')
    (hwords : ∀ w ∈ words, IsRun w.toList) {text : List Char} (hu : Usual text) :
    withoutWords words text = withoutWords words' text := by
  have hwords' : ∀ w ∈ words', IsRun w.toList := fun w hw => hwords w ((hset w).mpr hw)
  have hruns {words : List String} (hwords : ∀ w ∈ words, IsRun w.toList) :
      withoutWords words text = (Text.runs text).replace fun m _ => withoutWords words m :=
    Keyword.foldl_replace_eq keyword (fun _ _ _ => []) hwords hu
  rw [hruns hwords, hruns hwords']
  refine (Text.ofRuns_runs text).replace_congr fun m hm => ?_
  by_cases h : ∃ w ∈ words, Spelled w.toList m
  · obtain ⟨w, hw, hspelled⟩ := h
    rw [withoutWords_of_spelled hwords hm ⟨w, hw, hspelled⟩,
      withoutWords_of_spelled hwords' hm ⟨w, (hset w).mp hw, hspelled⟩]
  · have hnone : ∀ w ∈ words, ¬ Spelled w.toList m := fun w hw hspelled => h ⟨w, hw, hspelled⟩
    rw [withoutWords_of_not_spelled hwords hm hnone,
      withoutWords_of_not_spelled hwords' hm fun w hw => hnone w ((hset w).mpr hw)]

/-- The names of an expression depend on which known words there are. -/
theorem extract_congr {v v' : Vocabulary} (hset : ∀ w, w ∈ knownWords v ↔ w ∈ knownWords v')
    (hwords : ∀ w ∈ knownWords v, IsRun w.toList) {text : List Char} (hu : Usual text) :
    extract v text = extract v' text := by
  have hsearch : ((knownWords v).any fun w => !(keyword w).isSearchable) =
      (knownWords v').any fun w => !(keyword w).isSearchable := by
    rw [Bool.eq_iff_iff, List.any_eq_true, List.any_eq_true]
    simp only [hset]
  rw [extract, extract, hsearch, withoutWords_congr hset hwords (usual_withoutLiterals hu)]

end Identifiers

/-! ### Operators -/

namespace Spacing

/-- A spacing can be made unless some operator cannot be searched for. -/
theorem toOption_ofVocabulary (v : Vocabulary) (maxLineLength : Nat) :
    (ofVocabulary v maxLineLength).toOption =
      if ∀ o ∈ v.operators, isSearchable o = true then some ⟨v.operators, maxLineLength⟩
      else none := by
  rw [ofVocabulary]
  cases hfind : v.operators.find? fun o => !isSearchable o with
  | some o =>
    rw [if_neg fun h => ?_]
    · rfl
    · have := h o (List.mem_of_find?_eq_some hfind)
      have hnot := List.find?_some hfind
      rw [this] at hnot
      cases hnot
  | none =>
    rw [if_pos fun o ho => by simpa using List.find?_eq_none.mp hfind o ho]
    rfl

/-- A usual text in regular spacing does not depend on the order of the operators. -/
theorem prettify_perm {g g' : Grammar}
    (hperm : (Vocabulary.ofGrammar g).operators.Perm (Vocabulary.ofGrammar g').operators)
    (hops : ∀ o ∈ (Vocabulary.ofGrammar g).operators, IsRun o.toList) {text : List Char} (hu : Usual text)
    (n n' : Nat) :
    (ofVocabulary (.ofGrammar g) n).toOption.map (fun s => s.prettify text) =
      (ofVocabulary (.ofGrammar g') n').toOption.map fun s => s.prettify text := by
  have hfold := foldl_respace_perm hperm hops
    (fun o ho o' ho' => eq_of_spelled (fun o ho => isOperator_of_isRun (hops o ho)) ho ho') hu
  simp only [toOption_ofVocabulary, hperm.mem_iff]
  split
  · simp only [Option.map_some, prettify, hfold]
  · rfl

end Spacing

/-- Regular spacing and the names of an expression are the same for two grammars whose keywords of word
characters differ in nothing but their order. -/
theorem Vocabulary.prettify_extract_congr {g g' : Grammar} {text : List Char} (hu : Usual text) :
    ((ofGrammar g).operators.Perm (ofGrammar g').operators →
      (∀ o ∈ (ofGrammar g).operators, IsRun o.toList) → ∀ n n',
        (Spacing.ofVocabulary (.ofGrammar g) n).toOption.map (fun s => s.prettify text) =
          (Spacing.ofVocabulary (.ofGrammar g') n').toOption.map fun s => s.prettify text) ∧
    ((∀ w, w ∈ Identifiers.knownWords (.ofGrammar g) ↔ w ∈ Identifiers.knownWords (.ofGrammar g')) →
      (∀ w ∈ Identifiers.knownWords (.ofGrammar g), IsRun w.toList) →
        Identifiers.extract (.ofGrammar g) text = Identifiers.extract (.ofGrammar g') text) :=
  ⟨fun hperm hops => Spacing.prettify_perm hperm hops hu,
    fun hset hwords => Identifiers.extract_congr hset hwords hu⟩

/-- Three operators in two orders. -/
theorem Vocabulary.prettify_extract_congr_reversed :
    let g := Spacing.ofOperators ["eq", "not_in", "is"]
    let g' := Spacing.ofOperators ["is", "not_in", "eq"]
    (ofGrammar g).operators.Perm (ofGrammar g').operators ∧
      (∀ o ∈ (ofGrammar g).operators, IsRun o.toList) ∧
      Usual "a \t EQ IS  b,NOT_IN\nnot_i".toList ∧
      (Spacing.ofVocabulary (.ofGrammar g') 80).toOption.map
          (fun s => s.prettify "a \t EQ IS  b,NOT_IN\nnot_i".toList) =
        some "a eq is b, not_in not_i".toList ∧
      Identifiers.extract (.ofGrammar g') "a \t EQ IS  b,NOT_IN\nnot_i".toList = ["a", "not_i"] := by
  intro g g'
  have hu : Usual "a \t EQ IS  b,NOT_IN\nnot_i".toList := ⟨by decide, by decide⟩
  have hperm : (ofGrammar g).operators.Perm (ofGrammar g').operators := by
    unfold g g'
    decide +kernel
  have hops : ∀ o ∈ (ofGrammar g).operators, IsRun o.toList := by
    unfold g
    decide +kernel
  have hknown : (Identifiers.knownWords (.ofGrammar g)).Perm
      (Identifiers.knownWords (.ofGrammar g')) := by
    unfold g g'
    decide +kernel
  have hwords : ∀ w ∈ Identifiers.knownWords (.ofGrammar g), IsRun w.toList := by
    unfold g
    decide +kernel
  obtain ⟨hprettify, hextract⟩ := @prettify_extract_congr g g' _ hu
  refine ⟨hperm, hops, hu, ?_, ?_⟩
  · rw [← hprettify hperm hops 80 80]
    unfold g
    decide +kernel
  · rw [← hextract (fun w => hknown.mem_iff) hwords]
    unfold g
    decide +kernel

end Annotator
