import Annotator.Proofs.Documents

/-!
# Which documents describe a grammar

A document is accepted in two steps with different notions of what is there. The check asks of a
field that it is set, whatever it holds; reading asks of it what it holds, and lets some fields be
null. Together they accept exactly the documents of one form, which is stated here field by field
and without mentioning either step.

## Key results

- `Grammar.tokenForm_iff`, `Grammar.typeForm_iff`, `Grammar.ruleForm_iff`: what passes the check and
  can be read, for words, types and rules
- `Grammar.ofDocument?_accepts_iff`: the documents that describe a grammar, and the errors of others
-/

namespace Annotator

/-! ### The form of a document -/

namespace Json

/-- A value that counts as set. -/
structure Truthy (v : Json) : Prop where
  notNull : v ≠ .null
  notFalse : v ≠ .bool false
  notZero : ∀ n, v = .number n → n.isZero = false
  notEmpty : v ≠ .string ""

def IsText (v : Json) : Prop := ∃ s, v = .string s

/-- A text that is not empty. -/
def IsName (v : Json) : Prop := ∃ s, s ≠ "" ∧ v = .string s

def IsBool (v : Json) : Prop := ∃ b, v = .bool b

def IsNumber (v : Json) : Prop := ∃ n, v = .number n

def IsObject (v : Json) : Prop := ∃ fields, v = .object fields

/-- A sequence of values with a property. -/
def IsListOf (P : Json → Prop) (v : Json) : Prop := ∃ items, v = .array items ∧ ∀ i ∈ items, P i

/-- A field is there and has a property. -/
def Must (v : Json) (key : String) (P : Json → Prop) : Prop := ∃ w, v.get? key = some w ∧ P w

/-- A field is absent or null, or has a property. -/
def May (v : Json) (key : String) (P : Json → Prop) : Prop :=
  ∀ w, v.get? key = some w → w = .null ∨ P w

end Json

namespace Grammar

open Json (Truthy IsText IsName IsBool IsNumber IsObject IsListOf)

/-- A word. -/
structure TokenForm (v : Json) : Prop where
  keyword : v.Must "keyword" IsName
  typeName : v.Must "type" IsName
  description : v.May "description" IsText

/-- The style of a type. -/
structure TypeForm (v : Json) : Prop where
  className : v.Must "className" IsName
  color : v.Must "highlightColor" IsName
  parent : v.Must "parentType" IsName
  weight : v.May "fontWeight" fun w => IsNumber w ∨ IsText w
  slant : v.May "fontStyle" IsText

/-- What a keyword rule has beside its kind. -/
structure KeywordRuleForm (v : Json) : Prop where
  name : v.Must "name" IsName
  caseSensitive : v.May "caseSensitive" IsBool
  wordBoundaries : v.May "addWordBoundaries" IsBool
  tokens : v.Must "tokens" (IsListOf TokenForm)

/-- What a pattern rule has beside its kind. -/
structure PatternRuleForm (v : Json) : Prop where
  name : v.Must "name" IsName
  pattern : v.Must "pattern" IsName
  typeName : v.May "type" IsText
  replacement : v.May "replacement" IsText

/-- A rule: a name and a kind that are set, and what the kind asks for if it is one of two. -/
structure RuleForm (v : Json) : Prop where
  name : v.Must "name" Truthy
  kind : v.Must "matchType" Truthy
  keyword : v.get? "matchType" = some (.string "keyword") → KeywordRuleForm v
  pattern : v.get? "matchType" = some (.string "regex") → PatternRuleForm v

/-- A version: anything but a sequence or an object. -/
def IsVersion (v : Json) : Prop := IsText v ∨ IsNumber v ∨ IsBool v ∨ v = .null

/-- A document that describes a grammar. -/
structure DocumentForm (d : Json) : Prop where
  object : IsObject d
  version : d.Must "version" IsVersion
  description : d.May "description" IsText
  reference : d.May "reference" IsText
  metadata : d.May "metadata" IsObject
  rules : d.Must "highlightingRules" (IsListOf RuleForm)
  types : d.Must "types" (IsListOf TypeForm)

/-! ### Fields that are set -/

theorem isSet_iff {v : Json} : isSet v = true ↔ Truthy v := by
  constructor
  · intro h
    refine ⟨?_, ?_, ?_, ?_⟩
    · rintro rfl
      cases h
    · rintro rfl
      cases h
    · rintro n rfl
      simpa [isSet] using h
    · rintro rfl
      exact absurd h (by decide)
  · intro h
    cases v with
    | null => exact absurd rfl h.notNull
    | bool b =>
      cases b with
      | false => exact absurd rfl h.notFalse
      | true => rfl
    | number n => simp [isSet, h.notZero n rfl]
    | string s =>
      have hne : s ≠ "" := fun heq => h.notEmpty (by rw [heq])
      simpa [isSet] using hne
    | array items => rfl
    | object fields => rfl

theorem has_iff {v : Json} {key : String} : has v key = true ↔ v.Must key Truthy := by
  rw [has, Option.any_eq_true]
  simp only [isSet_iff, Json.Must]

/-- A text that is set is a name. -/
theorem must_isName_iff {v : Json} {key : String} :
    v.Must key IsName ↔ has v key = true ∧ v.Must key IsText := by
  constructor
  · intro h
    obtain ⟨_, hw, s, hs, rfl⟩ := h
    exact ⟨(has_iff_of_text hw).mpr hs, _, hw, s, rfl⟩
  · intro h
    obtain ⟨hset, _, hw, s, rfl⟩ := h
    exact ⟨_, hw, s, (has_iff_of_text hw).mp hset, rfl⟩

/-! ### Values that can be read -/

variable {α : Type}

/-- A value that can be read. -/
def Accepts (read : Reading α) (v : Json) : Prop := ∃ a, read v = .ok a

theorem accepts_readText {v : Json} : Accepts readText v ↔ IsText v := by
  simp only [Accepts, readText_eq_ok, IsText]

theorem accepts_readBool {v : Json} : Accepts readBool v ↔ IsBool v := by
  cases v <;> simp [Accepts, readBool, IsBool]

theorem accepts_readMap {v : Json} : Accepts readMap v ↔ IsObject v := by
  cases v <;> simp [Accepts, readMap, IsObject]

theorem accepts_readWeight {v : Json} : Accepts readWeight v ↔ IsNumber v ∨ IsText v := by
  cases v <;> simp [Accepts, readWeight, IsNumber, IsText]

theorem accepts_readVersion {v : Json} : Accepts readVersion v ↔ IsVersion v := by
  cases v <;> simp [Accepts, readVersion, IsVersion, IsText, IsNumber, IsBool]

theorem accepts_nullable {read : Reading α} {v : Json} :
    Accepts (nullable read) v ↔ v = .null ∨ Accepts read v := by
  by_cases hv : v = .null
  · subst hv
    exact iff_of_true ⟨none, rfl⟩ (.inl rfl)
  · have hread : nullable read v = some <$> read v := by
      cases v <;> first | rfl | exact absurd rfl hv
    rw [or_iff_right hv, Accepts, Accepts, hread]
    simp only [Results.map_eq_ok]
    constructor
    · intro h
      obtain ⟨_, a, ha, _⟩ := h
      exact ⟨a, ha⟩
    · intro h
      obtain ⟨a, ha⟩ := h
      exact ⟨some a, a, ha, rfl⟩

theorem accepts_orElse {standard : α} {read : Reading α} {v : Json} :
    Accepts (orElse standard read) v ↔ v = .null ∨ Accepts read v := by
  rw [← accepts_nullable]
  constructor
  · intro h
    obtain ⟨_, ha⟩ := h
    obtain ⟨x, hx, _⟩ := Results.bind_eq_ok.mp ha
    exact ⟨x, hx⟩
  · intro h
    obtain ⟨x, hx⟩ := h
    exact ⟨_, Results.bind_eq_ok.mpr ⟨x, hx, rfl⟩⟩

theorem accepts_readList {read : Reading α} {P : Json → Prop}
    (h : ∀ {v}, Accepts read v ↔ P v) {v : Json} : Accepts (readList read) v ↔ IsListOf P v := by
  cases v with
  | array items =>
    simp only [Accepts, readList, Results.exists_mapM_eq_ok, IsListOf, Json.array.injEq,
      exists_eq_left', ← h]
  | _ => simp [Accepts, readList, IsListOf]

/-! ### Fields that can be read -/

section Fields

variable {fields : List (String × Json)} {key : String} {read : Reading α} {P : Json → Prop}

/-- A field that may be absent can be read if what it holds can. -/
private theorem exists_field?_eq_ok : (∃ x, field? fields key read = .ok x) ↔
    ∀ w, (Json.object fields).get? key = some w → Accepts read w := by
  simp only [field?_eq_ok, Json.get?]
  cases fields.lookup key with
  | none => simp
  | some v => simp [Accepts]

theorem may_iff_nullable (h : ∀ {v}, Accepts read v ↔ P v) :
    (Json.object fields).May key P ↔ ∃ x, field? fields key (nullable read) = .ok x := by
  simp only [exists_field?_eq_ok, accepts_nullable, Json.May, h]

theorem may_iff_orElse {standard : α} (h : ∀ {v}, Accepts read v ↔ P v) :
    (Json.object fields).May key P ↔ ∃ x, field? fields key (orElse standard read) = .ok x := by
  simp only [exists_field?_eq_ok, accepts_orElse, Json.May, h]

/-- A field that is needed can be read if it is there and what it holds can be read. -/
theorem must_iff_need (h : ∀ {v}, Accepts read v ↔ P v) :
    (Json.object fields).Must key P ↔
      ∃ x, field? fields key read = .ok x ∧ ∃ a, need key x = .ok a := by
  constructor
  · intro hmust
    obtain ⟨w, hw, hp⟩ := hmust
    obtain ⟨a, hread⟩ := h.mpr hp
    exact ⟨some a, field?_eq_ok.mpr (.inr ⟨w, a, hw, hread, rfl⟩), a, rfl⟩
  · intro hneed
    obtain ⟨x, hx, a, ha⟩ := hneed
    obtain ⟨w, hw, hread⟩ := lookup_of_need hx ha
    exact ⟨w, hw, h.mp ⟨a, hread⟩⟩

/-- So is a name, if the field is moreover set. -/
theorem must_isName_iff_need : (Json.object fields).Must key IsName ↔
    has (.object fields) key = true ∧
      ∃ x, field? fields key readText = .ok x ∧ ∃ a, need key x = .ok a := by
  rw [must_isName_iff, must_iff_need accepts_readText]

end Fields

/-! ### Records that pass the check and can be read -/

/-- Only an object has fields. -/
private theorem exists_object {v w : Json} {key : String} (h : v.get? key = some w) :
    ∃ fields, v = .object fields := by
  cases v with
  | object fields => exact ⟨fields, rfl⟩
  | _ => cases h

private theorem exists_object_of_must {v : Json} {key : String} {P : Json → Prop}
    (h : v.Must key P) : ∃ fields, v = .object fields := by
  obtain ⟨_, hw, _⟩ := h
  exact exists_object hw

private theorem exists_object_of_has {v : Json} {key : String} (h : has v key = true) :
    ∃ fields, v = .object fields := by
  obtain ⟨_, hw, _⟩ := (Option.any_eq_true _ _).mp h
  exact exists_object hw

theorem tokenForm_iff {v : Json} : TokenForm v ↔
    (has v "keyword" = true ∧ has v "type" = true) ∧ Accepts readToken v := by
  cases v with
  | object fields =>
    simp only [Accepts, readToken, Results.bind_eq_ok]
    constructor
    · intro h
      obtain ⟨hk, ht, hd⟩ := h
      obtain ⟨hkset, _, hk, _, hk'⟩ := must_isName_iff_need.mp hk
      obtain ⟨htset, _, ht, _, ht'⟩ := must_isName_iff_need.mp ht
      obtain ⟨_, hd⟩ := (may_iff_orElse accepts_readText).mp hd
      -- all fields are read first, and those that are needed are asked for afterwards
      exact ⟨⟨hkset, htset⟩, _, _, hd, _, hk, _, ht, _, hk', _, ht', rfl⟩
    · intro h
      obtain ⟨⟨hkset, htset⟩, _, _, hd, _, hk, _, ht, _, hk', _, ht', _⟩ := h
      exact ⟨must_isName_iff_need.mpr ⟨hkset, _, hk, _, hk'⟩,
        must_isName_iff_need.mpr ⟨htset, _, ht, _, ht'⟩,
        (may_iff_orElse accepts_readText).mpr ⟨_, hd⟩⟩
  | _ =>
    refine iff_of_false (fun h => ?_) fun h => ?_
    · simpa using exists_object_of_must h.keyword
    · simpa using exists_object_of_has h.1.1

theorem typeForm_iff {v : Json} : TypeForm v ↔ checkType v = .ok () ∧ Accepts readType v := by
  rw [checkType_eq_ok]
  cases v with
  | object fields =>
    simp only [Accepts, readType, Results.bind_eq_ok]
    constructor
    · intro h
      obtain ⟨hn, hc, hp, hw, hs⟩ := h
      obtain ⟨hnset, _, hn, _, hn'⟩ := must_isName_iff_need.mp hn
      obtain ⟨hcset, _, hc, _, hc'⟩ := must_isName_iff_need.mp hc
      obtain ⟨hpset, _, hp, _, hp'⟩ := must_isName_iff_need.mp hp
      obtain ⟨_, hw⟩ := (may_iff_nullable accepts_readWeight).mp hw
      obtain ⟨_, hs⟩ := (may_iff_nullable accepts_readText).mp hs
      exact ⟨⟨hnset, hcset, hpset⟩,
        _, _, hn, _, hs, _, hw, _, hc, _, hp, _, hn', _, hc', _, hp', rfl⟩
    · intro h
      obtain ⟨⟨hnset, hcset, hpset⟩,
        _, _, hn, _, hs, _, hw, _, hc, _, hp, _, hn', _, hc', _, hp', _⟩ := h
      exact ⟨must_isName_iff_need.mpr ⟨hnset, _, hn, _, hn'⟩,
        must_isName_iff_need.mpr ⟨hcset, _, hc, _, hc'⟩,
        must_isName_iff_need.mpr ⟨hpset, _, hp, _, hp'⟩,
        (may_iff_nullable accepts_readWeight).mpr ⟨_, hw⟩,
        (may_iff_nullable accepts_readText).mpr ⟨_, hs⟩⟩
  | _ =>
    refine iff_of_false (fun h => ?_) fun h => ?_
    · simpa using exists_object_of_must h.className
    · simpa using exists_object_of_has h.1.1

/-- The entries of a sequence are checked and read one by one. -/
private theorem must_listOf_iff {d : Json} {key : String} {P Q R : Json → Prop}
    (h : ∀ {v}, P v ↔ Q v ∧ R v) : d.Must key (IsListOf P) ↔
      (∃ items, d.get? key = some (.array items) ∧ ∀ i ∈ items, Q i) ∧ d.Must key (IsListOf R) := by
  constructor
  · intro hmust
    obtain ⟨_, hw, items, rfl, hitems⟩ := hmust
    exact ⟨⟨items, hw, fun i hi => (h.mp (hitems i hi)).1⟩,
      _, hw, items, rfl, fun i hi => (h.mp (hitems i hi)).2⟩
  · intro hboth
    obtain ⟨⟨items, hitems, hq⟩, _, hw, items', rfl, hr⟩ := hboth
    obtain rfl : items = items' := by simpa [hitems] using hw
    exact ⟨_, hw, items, rfl, fun i hi => h.mpr ⟨hq i hi, hr i hi⟩⟩

section Rules

variable {fields : List (String × Json)}

theorem keywordRuleForm_iff : KeywordRuleForm (.object fields) ↔
    (has (.object fields) "name" = true ∧
      ∃ items, (Json.object fields).get? "tokens" = some (.array items) ∧
        ∀ t ∈ items, has t "keyword" = true ∧ has t "type" = true) ∧
      ∃ r, readKeywordRule fields = .ok r := by
  simp only [readKeywordRule, Results.bind_eq_ok]
  constructor
  · intro h
    obtain ⟨hn, hc, hb, ht⟩ := h
    obtain ⟨hset, _, hn, _, hn'⟩ := must_isName_iff_need.mp hn
    obtain ⟨_, hc⟩ := (may_iff_orElse accepts_readBool).mp hc
    obtain ⟨_, hb⟩ := (may_iff_orElse accepts_readBool).mp hb
    obtain ⟨hitems, ht⟩ := (must_listOf_iff tokenForm_iff).mp ht
    obtain ⟨_, ht, _, ht'⟩ := (must_iff_need (accepts_readList Iff.rfl)).mp ht
    exact ⟨⟨hset, hitems⟩, _, _, hb, _, hc, _, hn, _, ht, _, hn', _, ht', rfl⟩
  · intro h
    obtain ⟨⟨hset, hitems⟩, _, _, hb, _, hc, _, hn, _, ht, _, hn', _, ht', _⟩ := h
    exact ⟨must_isName_iff_need.mpr ⟨hset, _, hn, _, hn'⟩,
      (may_iff_orElse accepts_readBool).mpr ⟨_, hc⟩, (may_iff_orElse accepts_readBool).mpr ⟨_, hb⟩,
      (must_listOf_iff tokenForm_iff).mpr
        ⟨hitems, (must_iff_need (accepts_readList Iff.rfl)).mpr ⟨_, ht, _, ht'⟩⟩⟩

theorem patternRuleForm_iff : PatternRuleForm (.object fields) ↔
    (has (.object fields) "name" = true ∧ has (.object fields) "pattern" = true) ∧
      ∃ r, readPatternRule fields = .ok r := by
  simp only [readPatternRule, Results.bind_eq_ok]
  constructor
  · intro h
    obtain ⟨hn, hp, ht, hr⟩ := h
    obtain ⟨hnset, _, hn, _, hn'⟩ := must_isName_iff_need.mp hn
    obtain ⟨hpset, _, hp, _, hp'⟩ := must_isName_iff_need.mp hp
    obtain ⟨_, ht⟩ := (may_iff_nullable accepts_readText).mp ht
    obtain ⟨_, hr⟩ := (may_iff_nullable accepts_readText).mp hr
    exact ⟨⟨hnset, hpset⟩, _, _, hn, _, hp, _, hr, _, ht, _, hn', _, hp', rfl⟩
  · intro h
    obtain ⟨⟨hnset, hpset⟩, _, _, hn, _, hp, _, hr, _, ht, _, hn', _, hp', _⟩ := h
    exact ⟨must_isName_iff_need.mpr ⟨hnset, _, hn, _, hn'⟩,
      must_isName_iff_need.mpr ⟨hpset, _, hp, _, hp'⟩,
      (may_iff_nullable accepts_readText).mpr ⟨_, ht⟩,
      (may_iff_nullable accepts_readText).mpr ⟨_, hr⟩⟩

/-- A rule is read as what its kind says. -/
theorem accepts_readRule : Accepts readRule (.object fields) ↔
    ((Json.object fields).kind? = some "keyword" → ∃ r, readKeywordRule fields = .ok r) ∧
      ((Json.object fields).kind? = some "regex" → ∃ r, readPatternRule fields = .ok r) := by
  unfold Accepts
  by_cases hk : (Json.object fields).kind? = some "keyword"
  · have hne : some "keyword" ≠ some "regex" := by decide
    simp only [readRule_keyword hk, hk, hne, Results.map_eq_ok, false_imp_iff, true_imp_iff,
      and_true]
    exact ⟨fun ⟨_, r, hr, _⟩ => ⟨r, hr⟩, fun ⟨r, hr⟩ => ⟨_, r, hr, rfl⟩⟩
  · by_cases hp : (Json.object fields).kind? = some "regex"
    · simp only [readRule_pattern hp, hp, Results.map_eq_ok, true_imp_iff]
      rw [and_iff_right fun h => absurd (hp.trans h) hk]
      exact ⟨fun ⟨_, r, hr, _⟩ => ⟨r, hr⟩, fun ⟨r, hr⟩ => ⟨_, r, hr, rfl⟩⟩
    · exact iff_of_true ⟨_, readRule_other hk hp⟩ ⟨fun h => absurd h hk, fun h => absurd h hp⟩

end Rules

/-- A rule of the form is one that passes the check and can be read. -/
theorem ruleForm_iff {v : Json} : RuleForm v ↔ checkRule v = .ok () ∧ Accepts readRule v := by
  rw [checkRule_eq_ok]
  cases v with
  | object fields =>
    rw [accepts_readRule]
    simp only [Json.kind?_eq_some, @has_iff _ "matchType"]
    constructor
    · intro h
      obtain ⟨hname, hkind, hk, hp⟩ := h
      have hk := fun h => keywordRuleForm_iff.mp (hk h)
      have hp := fun h => patternRuleForm_iff.mp (hp h)
      exact ⟨⟨has_iff.mpr hname, hkind, fun h => (hk h).1.2, fun h => (hp h).1.2⟩,
        fun h => (hk h).2, fun h => (hp h).2⟩
    · intro h
      obtain ⟨⟨hname, hkind, hcheckk, hcheckp⟩, hreadk, hreadp⟩ := h
      exact ⟨has_iff.mp hname, hkind,
        fun h => keywordRuleForm_iff.mpr ⟨⟨hname, hcheckk h⟩, hreadk h⟩,
        fun h => patternRuleForm_iff.mpr ⟨⟨hname, hcheckp h⟩, hreadp h⟩⟩
  | _ =>
    refine iff_of_false (fun h => ?_) fun h => ?_
    · simpa using exists_object_of_must h.name
    · simpa using exists_object_of_has h.1.1

/-! ### Documents -/

/-- A document of the form is one that passes the check and can be read. -/
theorem documentForm_iff {d : Json} : DocumentForm d ↔ check d = .ok () ∧ Accepts read d := by
  rw [check_eq_ok]
  cases d with
  | object fields =>
    simp only [Accepts, read, Results.bind_eq_ok]
    constructor
    · intro h
      obtain ⟨_, hv, hd, hf, hm, hr, ht⟩ := h
      have hversion : ((Json.object fields).get? "version").isSome = true := by
        obtain ⟨w, hw, _⟩ := hv
        rw [hw]
        rfl
      obtain ⟨⟨rules, hrules, hcheck⟩, hr⟩ := (must_listOf_iff ruleForm_iff).mp hr
      obtain ⟨⟨types, htypes, hcheck'⟩, ht⟩ := (must_listOf_iff typeForm_iff).mp ht
      obtain ⟨_, hd⟩ := (may_iff_nullable accepts_readText).mp hd
      obtain ⟨_, hf⟩ := (may_iff_nullable accepts_readText).mp hf
      obtain ⟨_, hm⟩ := (may_iff_nullable accepts_readMap).mp hm
      obtain ⟨_, hv, _, hv'⟩ := (must_iff_need accepts_readVersion).mp hv
      obtain ⟨_, hr, _, hr'⟩ := (must_iff_need (accepts_readList Iff.rfl)).mp hr
      obtain ⟨_, ht, _, ht'⟩ := (must_iff_need (accepts_readList Iff.rfl)).mp ht
      exact ⟨⟨rules, types, hversion, hrules, htypes, hcheck, hcheck'⟩,
        _, _, hd, _, hr, _, hm, _, hf, _, ht, _, hv, _, hv', _, hr', _, ht', rfl⟩
    · intro h
      obtain ⟨⟨rules, types, _, hrules, htypes, hcheck, hcheck'⟩,
        _, _, hd, _, hr, _, hm, _, hf, _, ht, _, hv, _, hv', _, hr', _, ht', _⟩ := h
      have hr := (must_iff_need (accepts_readList Iff.rfl)).mpr ⟨_, hr, _, hr'⟩
      have ht := (must_iff_need (accepts_readList Iff.rfl)).mpr ⟨_, ht, _, ht'⟩
      exact ⟨⟨fields, rfl⟩, (must_iff_need accepts_readVersion).mpr ⟨_, hv, _, hv'⟩,
        (may_iff_nullable accepts_readText).mpr ⟨_, hd⟩,
        (may_iff_nullable accepts_readText).mpr ⟨_, hf⟩,
        (may_iff_nullable accepts_readMap).mpr ⟨_, hm⟩,
        (must_listOf_iff ruleForm_iff).mpr ⟨⟨rules, hrules, hcheck⟩, hr⟩,
        (must_listOf_iff typeForm_iff).mpr ⟨⟨types, htypes, hcheck'⟩, ht⟩⟩
  | _ =>
    refine iff_of_false (fun h => ?_) fun h => ?_
    · simpa using exists_object_of_must h.version
    · obtain ⟨⟨_, _, hversion, _⟩, _⟩ := h
      obtain ⟨_, hw⟩ := Option.isSome_iff_exists.mp hversion
      simpa using exists_object hw

/-! ### Errors -/

/-- The check of a rule reports what the rule lacks. -/
private theorem isValidation_of_checkRule {v : Json} {e : Error} (h : checkRule v = .error e) :
    e.isValidation = true := by
  unfold checkRule at h
  split at h
  · cases h
    rfl
  · simp only at h
    split at h
    · split at h
      · cases h
        rfl
      · obtain ⟨t, _, h⟩ := Results.exists_of_forM_eq_error h
        unfold checkToken at h
        split at h
        · cases h
        · cases h
          rfl
    · split at h
      · cases h
      · cases h
        rfl
    · cases h

private theorem isValidation_of_sequence {d : Json} {key : String} {e : Error}
    (h : sequence d key = .error e) : e.isValidation = true := by
  unfold sequence at h
  split at h
  · cases h
  · cases h
    rfl

/-- The check of a document reports what the document lacks, or that it is no object. -/
theorem isValidation_of_check {d : Json} {e : Error} (h : check d = .error e) :
    e.isValidation = true ∨ e = .malformed .notAnObject := by
  cases d with
  | object fields =>
    left
    rw [check, Results.bind_eq_error] at h
    rcases h with h | ⟨_, _, h⟩
    · obtain ⟨key, _, h⟩ := Results.exists_of_forM_eq_error h
      split at h
      · cases h
      · cases h
        rfl
    rcases Results.bind_eq_error.mp h with h | ⟨rules, _, h⟩
    · exact isValidation_of_sequence h
    rcases Results.bind_eq_error.mp h with h | ⟨_, _, h⟩
    · obtain ⟨r, _, h⟩ := Results.exists_of_forM_eq_error h
      exact isValidation_of_checkRule h
    rcases Results.bind_eq_error.mp h with h | ⟨types, _, h⟩
    · exact isValidation_of_sequence h
    obtain ⟨t, _, h⟩ := Results.exists_of_forM_eq_error h
    unfold checkType at h
    split at h
    · cases h
    · cases h
      rfl
  | _ =>
    right
    cases h
    rfl

/-- A document describes a grammar if it has the form of one. The error of any other document says
what the document lacks, or what part of it is malformed. -/
theorem ofDocument?_accepts_iff (d : Json) :
    ((∃ g, ofDocument? d = .ok g) ↔ DocumentForm d) ∧
      ∀ e, ofDocument? d = .error e → e.isValidation = true ∨ ∃ cause, e = .malformed cause := by
  constructor
  · simp only [documentForm_iff, ofDocument?_eq_ok, exists_and_left, Accepts]
  · intro e h
    rw [ofDocument?] at h
    rcases Results.bind_eq_error.mp h with h | ⟨_, _, h⟩
    · rcases isValidation_of_check h with h | rfl
      · exact .inl h
      · exact .inr ⟨_, rfl⟩
    · obtain ⟨cause, _, rfl⟩ := Results.mapError_eq_error.mp h
      exact .inr ⟨cause, rfl⟩

/-- A rule of a kind of its own may be named by anything that is set. -/
example : (ofDocument? (.object [("version", .null), ("types", .array []),
    ("highlightingRules", .array [.object [("name", .bool true),
      ("matchType", .array [])]])])).toOption.isSome = true := by
  decide +kernel

end Grammar

end Annotator
