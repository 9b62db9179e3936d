import Annotator.Grammar.Reader
import Annotator.Grammar.Writer
import Annotator.Proofs.Checks

/-!
# Grammars of documents

What the check of a document says about the grammar that is read from it: its words, styles and rules
are well-formed. Each rule of the grammar comes from the rule of the document in its place.

## Key results

- `Grammar.wellFormed_of_readRule`: a rule that is read from one that passes the check
- `Grammar.wellFormed_of_ofDocument?`: the grammar of a document is well-formed, and its rules keep
  their places, kinds and names
-/

namespace Annotator

/-! ### Well-formed grammars -/

/-- A word with a spelling and a type. -/
structure Token.WellFormed (t : Token) : Prop where
  keyword : t.keyword ≠ ""
  typeName : t.typeName ≠ ""

/-- A style with a class, a color and a parent. -/
structure TypeStyle.WellFormed (s : TypeStyle) : Prop where
  className : s.className ≠ ""
  color : s.color ≠ ""
  parent : s.parent ≠ ""

namespace Rule

/-- A rule with a name and what its kind needs; a rule of another kind is one that passes the check
of rules. -/
def WellFormed : Rule → Prop
  | keyword r => r.name ≠ "" ∧ ∀ t ∈ r.tokens, t.WellFormed
  | pattern r => r.name ≠ "" ∧ r.pattern ≠ ""
  | other v => Grammar.checkRule v = .ok () ∧ v.kind? ≠ some "keyword" ∧ v.kind? ≠ some "regex"

/-- A rule keeps a rule of a document if it is of the same kind and has the same name, or, if the
kind is another, is that very rule. -/
def Keeps (v : Json) : Rule → Prop
  | keyword r => v.kind? = some "keyword" ∧ v.get? "name" = some (.string r.name)
  | pattern r => v.kind? = some "regex" ∧ v.get? "name" = some (.string r.name)
  | other w => w = v ∧ v.kind? ≠ some "keyword" ∧ v.kind? ≠ some "regex"

end Rule

namespace Grammar

/-- A grammar of well-formed rules and styles. -/
structure WellFormed (g : Grammar) : Prop where
  rules : ∀ r ∈ g.rules, r.WellFormed
  types : ∀ s ∈ g.types, s.WellFormed

/-! ### Reading fields -/

variable {α : Type}

theorem field?_eq_ok {fields : List (String × Json)} {key : String} {read : Reading α}
    {x : Option α} : field? fields key read = .ok x ↔
      (fields.lookup key = none ∧ x = none) ∨
        ∃ v a, fields.lookup key = some v ∧ read v = .ok a ∧ x = some a := by
  unfold field?
  cases fields.lookup key with
  | none => simp [eq_comm]
  | some v =>
    simp only [Results.map_eq_ok, reduceCtorEq, false_and, false_or, Option.some.injEq]
    constructor
    · intro h
      obtain ⟨a, ha, rfl⟩ := h
      exact ⟨v, a, rfl, ha, rfl⟩
    · intro h
      obtain ⟨_, a, rfl, ha, rfl⟩ := h
      exact ⟨a, ha, rfl⟩

theorem need_eq_ok {key : String} {x : Option α} {a : α} : need key x = .ok a ↔ x = some a := by
  cases x with
  | none => simp [need]
  | some b => simp [need]

/-- A field that is needed is there. -/
theorem lookup_of_need {fields : List (String × Json)} {key : String} {read : Reading α}
    {x : Option α} {a : α} (hfield : field? fields key read = .ok x) (hneed : need key x = .ok a) :
    ∃ v, fields.lookup key = some v ∧ read v = .ok a := by
  obtain rfl := need_eq_ok.mp hneed
  rcases field?_eq_ok.mp hfield with ⟨_, h⟩ | ⟨v, b, hlookup, hread, h⟩
  · cases h
  · obtain rfl := Option.some.inj h
    exact ⟨v, hlookup, hread⟩

theorem readText_eq_ok {v : Json} {s : String} : readText v = .ok s ↔ v = .string s := by
  cases v <;> simp [readText]

theorem readList_eq_ok {read : Reading α} {v : Json} {l : List α} : readList read v = .ok l ↔
    ∃ items, v = .array items ∧ List.Forall₂ (fun i a => read i = .ok a) items l := by
  cases v with
  | array items => simp [readList, Results.mapM_eq_ok]
  | _ => simp [readList]

/-- A text that is needed is there. -/
theorem get?_of_need_text {fields : List (String × Json)} {key : String} {x : Option String}
    {s : String} (hfield : field? fields key readText = .ok x) (hneed : need key x = .ok s) :
    (Json.object fields).get? key = some (.string s) := by
  obtain ⟨v, hlookup, hread⟩ := lookup_of_need hfield hneed
  rw [Json.get?, hlookup, readText_eq_ok.mp hread]

/-- A sequence that is needed is there, and each of its items is read. -/
theorem get?_of_need_list {fields : List (String × Json)} {key : String} {read : Reading α}
    {x : Option (List α)} {l : List α} (hfield : field? fields key (readList read) = .ok x)
    (hneed : need key x = .ok l) : ∃ items, (Json.object fields).get? key = some (.array items) ∧
      List.Forall₂ (fun i a => read i = .ok a) items l := by
  obtain ⟨v, hlookup, hread⟩ := lookup_of_need hfield hneed
  obtain ⟨items, rfl, hitems⟩ := readList_eq_ok.mp hread
  exact ⟨items, hlookup, hitems⟩

/-! ### Reading words, styles and rules -/

theorem wellFormed_of_readToken {v : Json} {t : Token} (hkeyword : has v "keyword" = true)
    (htype : has v "type" = true) (hread : readToken v = .ok t) : t.WellFormed := by
  obtain ⟨fields, rfl⟩ := exists_fields_of_has hkeyword
  simp only [readToken, Results.bind_eq_ok] at hread
  obtain ⟨_, _, _, hk, _, ht, _, hk', _, ht', heq⟩ := hread
  obtain rfl := Except.ok.inj heq
  exact ⟨(has_iff_of_text (get?_of_need_text hk hk')).mp hkeyword,
    (has_iff_of_text (get?_of_need_text ht ht')).mp htype⟩

theorem wellFormed_of_readType {v : Json} {s : TypeStyle} (hcheck : checkType v = .ok ())
    (hread : readType v = .ok s) : s.WellFormed := by
  obtain ⟨hclass, hcolor, hparent⟩ := checkType_eq_ok.mp hcheck
  obtain ⟨fields, rfl⟩ := exists_fields_of_has hclass
  simp only [readType, Results.bind_eq_ok] at hread
  obtain ⟨_, hn, _, _, _, _, _, hc, _, hp, _, hn', _, hc', _, hp', heq⟩ := hread
  obtain rfl := Except.ok.inj heq
  exact ⟨(has_iff_of_text (get?_of_need_text hn hn')).mp hclass,
    (has_iff_of_text (get?_of_need_text hc hc')).mp hcolor,
    (has_iff_of_text (get?_of_need_text hp hp')).mp hparent⟩

/-- The name and the words of a keyword rule of a document. -/
theorem get?_of_readKeywordRule {fields : List (String × Json)} {r : KeywordRule}
    (hread : readKeywordRule fields = .ok r) :
    (Json.object fields).get? "name" = some (.string r.name) ∧
      ∃ items, (Json.object fields).get? "tokens" = some (.array items) ∧
        List.Forall₂ (fun i t => readToken i = .ok t) items r.tokens := by
  simp only [readKeywordRule, Results.bind_eq_ok] at hread
  obtain ⟨_, _, _, _, _, hn, _, ht, _, hn', _, ht', heq⟩ := hread
  obtain rfl := Except.ok.inj heq
  exact ⟨get?_of_need_text hn hn', get?_of_need_list ht ht'⟩

/-- The name and the pattern of a pattern rule of a document. -/
theorem get?_of_readPatternRule {fields : List (String × Json)} {r : PatternRule}
    (hread : readPatternRule fields = .ok r) :
    (Json.object fields).get? "name" = some (.string r.name) ∧
      (Json.object fields).get? "pattern" = some (.string r.pattern) := by
  simp only [readPatternRule, Results.bind_eq_ok] at hread
  obtain ⟨_, hn, _, hp, _, _, _, _, _, hn', _, hp', heq⟩ := hread
  obtain rfl := Except.ok.inj heq
  exact ⟨get?_of_need_text hn hn', get?_of_need_text hp hp'⟩

/-- An object whose kind is that of keyword rules is read as one. -/
theorem readRule_keyword {fields : List (String × Json)}
    (h : (Json.object fields).kind? = some "keyword") :
    readRule (.object fields) = .keyword <$> readKeywordRule fields := by
  have hkind : (fields.lookup "matchType").bind Json.text? = some "keyword" := h
  simp only [readRule, hkind]

/-- An object whose kind is that of pattern rules is read as one. -/
theorem readRule_pattern {fields : List (String × Json)}
    (h : (Json.object fields).kind? = some "regex") :
    readRule (.object fields) = .pattern <$> readPatternRule fields := by
  have hkind : (fields.lookup "matchType").bind Json.text? = some "regex" := h
  simp only [readRule, hkind]

/-- A value of another kind is kept as it is. -/
theorem readRule_other {v : Json} (hkeyword : v.kind? ≠ some "keyword")
    (hregex : v.kind? ≠ some "regex") : readRule v = .ok (.other v) := by
  cases v with
  | object fields =>
    simp only [readRule]
    split
    · rename_i h
      exact absurd h hkeyword
    · rename_i h
      exact absurd h hregex
    · rfl
  | _ => rfl

/-- A rule that is read from one that passes the check is well-formed and keeps it. -/
theorem wellFormed_of_readRule {v : Json} {r : Rule} (hcheck : checkRule v = .ok ())
    (hread : readRule v = .ok r) : r.WellFormed ∧ Rule.Keeps v r := by
  obtain ⟨hname, -, hkeyword, hregex⟩ := checkRule_eq_ok.mp hcheck
  obtain ⟨fields, rfl⟩ := exists_fields_of_has hname
  -- the check and the reader look at the same kind
  by_cases hk : (Json.object fields).kind? = some "keyword"
  · rw [readRule_keyword hk, Results.map_eq_ok] at hread
    obtain ⟨k, hread, rfl⟩ := hread
    obtain ⟨hn, items, hitems, htokens⟩ := get?_of_readKeywordRule hread
    obtain ⟨items', hitems', hcheck⟩ := hkeyword hk
    obtain rfl : items = items' := by simpa [hitems] using hitems'
    refine ⟨⟨(has_iff_of_text hn).mp hname, fun t ht => ?_⟩, hk, hn⟩
    obtain ⟨i, hi, hread⟩ := Results.exists_of_mem_right htokens ht
    exact wellFormed_of_readToken (hcheck i hi).1 (hcheck i hi).2 hread
  · by_cases hp : (Json.object fields).kind? = some "regex"
    · rw [readRule_pattern hp, Results.map_eq_ok] at hread
      obtain ⟨p, hread, rfl⟩ := hread
      obtain ⟨hn, hpattern⟩ := get?_of_readPatternRule hread
      exact ⟨⟨(has_iff_of_text hn).mp hname, (has_iff_of_text hpattern).mp (hregex hp)⟩, hp, hn⟩
    · rw [readRule_other hk hp] at hread
      obtain rfl := Except.ok.inj hread
      exact ⟨⟨hcheck, hk, hp⟩, rfl, hk, hp⟩

/-! ### Reading documents -/

/-- The rules and the types of a document. -/
theorem get?_of_read {fields : List (String × Json)} {g : Grammar}
    (hread : read (.object fields) = .ok g) :
    (∃ items, (Json.object fields).get? "highlightingRules" = some (.array items) ∧
        List.Forall₂ (fun i r => readRule i = .ok r) items g.rules) ∧
      ∃ items, (Json.object fields).get? "types" = some (.array items) ∧
        List.Forall₂ (fun i s => readType i = .ok s) items g.types := by
  simp only [read, Results.bind_eq_ok] at hread
  obtain ⟨_, _, _, hr, _, _, _, _, _, ht, _, _, _, _, _, hr', _, ht', heq⟩ := hread
  obtain rfl := Except.ok.inj heq
  exact ⟨get?_of_need_list hr hr', get?_of_need_list ht ht'⟩

/-- The grammar of a document is one that is read from a document that passes the check. -/
theorem ofDocument?_eq_ok {d : Json} {g : Grammar} :
    ofDocument? d = .ok g ↔ check d = .ok () ∧ read d = .ok g := by
  rw [ofDocument?, Results.bind_eq_ok]
  constructor
  · intro h
    obtain ⟨_, hcheck, hread⟩ := h
    exact ⟨hcheck, Results.mapError_eq_ok.mp hread⟩
  · intro h
    obtain ⟨hcheck, hread⟩ := h
    exact ⟨_, hcheck, Results.mapError_eq_ok.mpr hread⟩

/-- The grammar of a document is well-formed, and its rules keep those of the document. -/
theorem wellFormed_of_ofDocument? {d : Json} {g : Grammar} (h : ofDocument? d = .ok g) :
    g.WellFormed ∧ ∃ items, d.get? "highlightingRules" = some (.array items) ∧
      List.Forall₂ Rule.Keeps items g.rules := by
  obtain ⟨hcheck, hread⟩ := ofDocument?_eq_ok.mp h
  obtain ⟨rules, types, hversion, hrules, htypes, hcheckRules, hcheckTypes⟩ := check_eq_ok.mp hcheck
  cases d with
  | object fields =>
    obtain ⟨⟨items, hitems, hreadRules⟩, items', hitems', hreadTypes⟩ := get?_of_read hread
    obtain rfl : items = rules := by simpa [hitems] using hrules
    obtain rfl : items' = types := by simpa [hitems'] using htypes
    -- the sequences that are checked are those that are read
    have hboth := ((List.forall₂_and_left _ _).mpr ⟨hcheckRules, hreadRules⟩).imp
      fun v r h => wellFormed_of_readRule h.1 h.2
    refine ⟨⟨fun r hr => ?_, fun s hs => ?_⟩, items, hitems, hboth.imp fun v r h => h.2⟩
    · obtain ⟨v, _, hv⟩ := Results.exists_of_mem_right hboth hr
      exact hv.1
    · obtain ⟨v, hv, hreadType⟩ := Results.exists_of_mem_right hreadTypes hs
      exact wellFormed_of_readType (hcheckTypes v hv) hreadType
  | _ => cases hversion

end Grammar

end Annotator
