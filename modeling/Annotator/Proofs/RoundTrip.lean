import Annotator.Proofs.Documents

/-!
# Documents round-trip

The document that is written for a well-formed grammar passes the check, and the grammar is read from
it again. So the grammar of a document is the grammar of its own document, whatever the first document
left out, wrote as null, or had besides.

## Key results

- `Grammar.read_toJson`: a grammar is read from its document
- `Grammar.check_toJson`: the document of a well-formed grammar passes the check
- `Grammar.ofDocument?_toJson`: documents round-trip
-/

namespace Annotator

/-! ### Options of written records -/

theorem TypeStyle.get?_toJson_fontWeight (s : TypeStyle) :
    s.toJson.get? "fontWeight" = s.weight.map FontWeight.toJson := by
  obtain ⟨className, color, parent, weight, slant⟩ := s
  cases weight <;> cases slant <;> rfl

theorem TypeStyle.get?_toJson_fontStyle (s : TypeStyle) :
    s.toJson.get? "fontStyle" = s.slant.map Json.string := by
  obtain ⟨className, color, parent, weight, slant⟩ := s
  cases weight <;> cases slant <;> rfl

theorem Rule.get?_toJson_type (r : PatternRule) :
    (pattern r).toJson.get? "type" = r.typeName.map Json.string := by
  obtain ⟨name, pattern, typeName, replacement⟩ := r
  cases typeName <;> cases replacement <;> rfl

theorem Rule.get?_toJson_replacement (r : PatternRule) :
    (pattern r).toJson.get? "replacement" = r.replacement.map Json.string := by
  obtain ⟨name, pattern, typeName, replacement⟩ := r
  cases typeName <;> cases replacement <;> rfl

namespace Grammar

theorem get?_toJson_description (g : Grammar) :
    g.toJson.get? "description" = g.description.map Json.string := by
  obtain ⟨version, description, reference, rules, types, metadata⟩ := g
  cases description <;> cases reference <;> cases metadata <;> rfl

theorem get?_toJson_reference (g : Grammar) :
    g.toJson.get? "reference" = g.reference.map Json.string := by
  obtain ⟨version, description, reference, rules, types, metadata⟩ := g
  cases description <;> cases reference <;> cases metadata <;> rfl

theorem get?_toJson_metadata (g : Grammar) :
    g.toJson.get? "metadata" = g.metadata.map Json.object := by
  obtain ⟨version, description, reference, rules, types, metadata⟩ := g
  cases description <;> cases reference <;> cases metadata <;> rfl

theorem get?_toJson_rules (g : Grammar) :
    g.toJson.get? "highlightingRules" = some (.array (g.rules.map Rule.toJson)) := by
  obtain ⟨version, description, reference, rules, types, metadata⟩ := g
  cases description <;> cases reference <;> rfl

theorem get?_toJson_types (g : Grammar) :
    g.toJson.get? "types" = some (.array (g.types.map TypeStyle.toJson)) := by
  obtain ⟨version, description, reference, rules, types, metadata⟩ := g
  cases description <;> cases reference <;> rfl

/-! ### Reading what was written -/

variable {α : Type} {v : Json} {fields : List (String × Json)} {key : String}

theorem field?_of_get? (hv : v = .object fields) {read : Reading α} {w : Json} {a : α}
    (hget : v.get? key = some w) (hread : read w = .ok a) :
    field? fields key read = .ok (some a) := by
  subst hv
  exact field?_eq_ok.mpr (.inr ⟨w, a, hget, hread, rfl⟩)

/-- An option that is written if it is there, and not as null, is read again. -/
theorem field?_nullable (hv : v = .object fields) {read : Reading α} {write : α → Json}
    (hread : ∀ a, read (write a) = .ok a) (hnull : ∀ a, write a ≠ .null) {x : Option α}
    (hget : v.get? key = x.map write) :
    ∃ y, field? fields key (nullable read) = .ok y ∧ y.join = x := by
  have hnullable (a : α) : nullable read (write a) = .ok (some a) := by
    unfold nullable
    split
    · rename_i h
      exact absurd h (hnull a)
    · rw [hread]
      rfl
  -- an absent field and one that is null are read alike, but only the first is written
  cases x with
  | none =>
    subst hv
    exact ⟨none, field?_eq_ok.mpr (.inl ⟨hget, rfl⟩), rfl⟩
  | some a => exact ⟨some (some a), field?_of_get? hv hget (hnullable a), rfl⟩

theorem field?_nullable_text (hv : v = .object fields) {x : Option String}
    (hget : v.get? key = x.map Json.string) :
    ∃ y, field? fields key (nullable readText) = .ok y ∧ y.join = x :=
  field?_nullable hv (fun _ => readText_eq_ok.mpr rfl) (fun _ h => nomatch h) hget

theorem readList_map {read : Reading α} {write : α → Json} {l : List α}
    (h : ∀ a ∈ l, read (write a) = .ok a) : readList read (.array (l.map write)) = .ok l := by
  rw [readList_eq_ok]
  refine ⟨_, rfl, ?_⟩
  rw [List.forall₂_map_left_iff]
  exact List.forall₂_same.mpr h

theorem readToken_toJson (t : Token) : readToken t.toJson = .ok t := by
  obtain ⟨fields, hv⟩ : ∃ fields, t.toJson = .object fields := ⟨_, rfl⟩
  rw [hv]
  simp only [readToken, Results.bind_eq_ok]
  exact ⟨_, field?_of_get? hv rfl rfl, _, field?_of_get? hv rfl rfl, _, field?_of_get? hv rfl rfl, _,
    rfl, _, rfl, rfl⟩

theorem readWeight_toJson (w : FontWeight) : readWeight w.toJson = .ok w := by
  cases w with
  | numeric n => rfl
  | named s => rfl

theorem readType_toJson (s : TypeStyle) : readType s.toJson = .ok s := by
  have hnull (w : FontWeight) : w.toJson ≠ .null := by
    cases w with
    | numeric n => simp [FontWeight.toJson]
    | named s => simp [FontWeight.toJson]
  obtain ⟨fields, hv⟩ : ∃ fields, s.toJson = .object fields := ⟨_, rfl⟩
  obtain ⟨slant, hslant, hs⟩ := field?_nullable_text hv s.get?_toJson_fontStyle
  obtain ⟨weight, hweight, hw⟩ := field?_nullable hv readWeight_toJson hnull s.get?_toJson_fontWeight
  rw [hv]
  simp only [readType, Results.bind_eq_ok]
  exact ⟨_, field?_of_get? hv rfl rfl, slant, hslant, weight, hweight, _, field?_of_get? hv rfl rfl, _,
    field?_of_get? hv rfl rfl, _, rfl, _, rfl, _, rfl, by rw [hs, hw]; rfl⟩

/-- A rule is read again, if a rule of another kind does not say that it is of one of the two. -/
theorem readRule_toJson {r : Rule} (h : r.WellFormed) : readRule r.toJson = .ok r := by
  cases r with
  | keyword r =>
    obtain ⟨fields, hv⟩ : ∃ fields, (Rule.keyword r).toJson = .object fields := ⟨_, rfl⟩
    rw [hv, readRule_keyword (by rw [← hv]; rfl), Results.map_eq_ok]
    refine ⟨r, ?_, rfl⟩
    simp only [readKeywordRule, Results.bind_eq_ok]
    exact ⟨_, field?_of_get? hv rfl rfl, _, field?_of_get? hv rfl rfl, _, field?_of_get? hv rfl rfl,
      _, field?_of_get? hv rfl (readList_map fun t _ => readToken_toJson t), _, rfl, _, rfl, rfl⟩
  | pattern r =>
    obtain ⟨fields, hv⟩ : ∃ fields, (Rule.pattern r).toJson = .object fields := ⟨_, rfl⟩
    obtain ⟨typeName, htype, ht⟩ := field?_nullable_text hv (Rule.get?_toJson_type r)
    obtain ⟨replacement, hreplacement, hr⟩ := field?_nullable_text hv (Rule.get?_toJson_replacement r)
    rw [hv, readRule_pattern (by rw [← hv]; rfl), Results.map_eq_ok]
    refine ⟨r, ?_, rfl⟩
    simp only [readPatternRule, Results.bind_eq_ok]
    exact ⟨_, field?_of_get? hv rfl rfl, _, field?_of_get? hv rfl rfl, replacement, hreplacement,
      typeName, htype, _, rfl, _, rfl, by rw [ht, hr]; rfl⟩
  | other v => exact readRule_other h.2.1 h.2.2

/-- A well-formed grammar is read from its document. -/
theorem read_toJson {g : Grammar} (h : g.WellFormed) : read g.toJson = .ok g := by
  obtain ⟨fields, hv⟩ : ∃ fields, g.toJson = .object fields := ⟨_, rfl⟩
  obtain ⟨description, hdescription, hd⟩ := field?_nullable_text hv g.get?_toJson_description
  obtain ⟨reference, hreference, hr⟩ := field?_nullable_text hv g.get?_toJson_reference
  have hmap (l : List (String × Json)) : readMap (.object l) = .ok l := rfl
  obtain ⟨metadata, hmetadata, hm⟩ :=
    field?_nullable hv hmap (fun _ h => nomatch h) g.get?_toJson_metadata
  have hrules := readList_map fun r hr => readRule_toJson (h.rules r hr)
  have htypes := readList_map (l := g.types) fun s _ => readType_toJson s
  rw [hv]
  simp only [read, Results.bind_eq_ok]
  exact ⟨description, hdescription, _, field?_of_get? hv g.get?_toJson_rules hrules, metadata,
    hmetadata, reference, hreference, _, field?_of_get? hv g.get?_toJson_types htypes, _,
    field?_of_get? hv rfl rfl, _, rfl, _, rfl, _, rfl, by rw [hd, hr, hm]; rfl⟩

/-! ### Checking what was written -/

theorem has_toJson_token {t : Token} (h : t.WellFormed) :
    has t.toJson "keyword" = true ∧ has t.toJson "type" = true :=
  ⟨(has_iff_of_text rfl).mpr h.keyword, (has_iff_of_text rfl).mpr h.typeName⟩

theorem checkType_toJson {s : TypeStyle} (h : s.WellFormed) : checkType s.toJson = .ok () :=
  checkType_eq_ok.mpr ⟨(has_iff_of_text rfl).mpr h.className, (has_iff_of_text rfl).mpr h.color,
    (has_iff_of_text rfl).mpr h.parent⟩

theorem checkRule_toJson {r : Rule} (h : r.WellFormed) : checkRule r.toJson = .ok () := by
  cases r with
  | keyword r =>
    have hkind : (Rule.keyword r).toJson.kind? = some "keyword" := rfl
    refine checkRule_eq_ok.mpr ⟨(has_iff_of_text rfl).mpr h.1, rfl, fun _ => ⟨_, rfl, ?_⟩, fun hp => ?_⟩
    · rw [List.forall_mem_map]
      exact fun t ht => has_toJson_token (h.2 t ht)
    · exact absurd (hkind.symm.trans hp) (by decide)
  | pattern r =>
    have hkind : (Rule.pattern r).toJson.kind? = some "regex" := rfl
    refine checkRule_eq_ok.mpr ⟨(has_iff_of_text rfl).mpr h.1, rfl, fun hk => ?_, fun _ => ?_⟩
    · exact absurd (hkind.symm.trans hk) (by decide)
    · exact (has_iff_of_text rfl).mpr h.2
  | other v => exact h.1

/-- The document of a well-formed grammar passes the check. -/
theorem check_toJson {g : Grammar} (h : g.WellFormed) : check g.toJson = .ok () := by
  refine check_eq_ok.mpr ⟨_, _, rfl, g.get?_toJson_rules, g.get?_toJson_types, ?_, ?_⟩
  · rw [List.forall_mem_map]
    exact fun r hr => checkRule_toJson (h.rules r hr)
  · rw [List.forall_mem_map]
    exact fun s hs => checkType_toJson (h.types s hs)

/-! ### What is written at all -/

end Grammar

/-- A record that has none but some fields, none of which is null. -/
def Json.Tidy (keys : List String) (v : Json) : Prop :=
  ∃ fields, v = .object fields ∧ ∀ f ∈ fields, f.1 ∈ keys ∧ f.2 ≠ .null

theorem Json.forall_mem_optional {α : Type} {P : String × Json → Prop} {key : String}
    {write : α → Json} {x : Option α} (h : ∀ a, P (key, write a)) :
    ∀ f ∈ optional key (x.map write), P f := by
  cases x with
  | none => exact fun f hf => absurd hf List.not_mem_nil
  | some a => exact List.forall_mem_singleton.mpr (h a)

theorem Token.tidy_toJson (t : Token) : t.toJson.Tidy ["keyword", "type", "description"] :=
  ⟨_, rfl, by simp⟩

theorem TypeStyle.tidy_toJson (s : TypeStyle) : s.toJson.Tidy
    ["className", "highlightColor", "parentType", "fontWeight", "fontStyle"] := by
  refine ⟨_, rfl, ?_⟩
  simp only [List.forall_mem_append]
  refine ⟨⟨by simp, Json.forall_mem_optional fun w => ?_⟩, Json.forall_mem_optional fun s => ?_⟩
  · cases w <;> simp [FontWeight.toJson]
  · simp

/-- A rule that is written without unknown fields, unless it is of another kind. -/
def Rule.Tidy : Rule → Prop
  | keyword r => (keyword r).toJson.Tidy
      ["matchType", "name", "caseSensitive", "addWordBoundaries", "tokens"] ∧
    ∀ t ∈ r.tokens, t.toJson.Tidy ["keyword", "type", "description"]
  | pattern r => (pattern r).toJson.Tidy ["matchType", "name", "pattern", "type", "replacement"]
  | other v => (other v).toJson = v

theorem Rule.tidy (r : Rule) : r.Tidy := by
  cases r with
  | keyword r => exact ⟨⟨_, rfl, by simp⟩, fun t _ => t.tidy_toJson⟩
  | pattern r =>
    refine ⟨_, rfl, ?_⟩
    simp only [List.forall_mem_append]
    exact ⟨⟨by simp, Json.forall_mem_optional (by simp)⟩, Json.forall_mem_optional (by simp)⟩
  | other v => rfl

namespace Grammar

theorem tidy_toJson (g : Grammar) : g.toJson.Tidy
    ["version", "description", "reference", "highlightingRules", "types", "metadata"] := by
  refine ⟨_, rfl, ?_⟩
  simp only [List.forall_mem_append]
  refine ⟨⟨⟨⟨by simp, Json.forall_mem_optional ?_⟩, Json.forall_mem_optional ?_⟩, by simp⟩,
    Json.forall_mem_optional ?_⟩
  · simp
  · simp
  · simp

/-- A grammar that is written without unknown fields and without nulls, but for what it keeps as it
was written, and with a text for its version. -/
structure Tidy (g : Grammar) : Prop where
  document : g.toJson.Tidy
    ["version", "description", "reference", "highlightingRules", "types", "metadata"]
  version : g.toJson.get? "version" = some (.string g.version)
  rules : ∀ r ∈ g.rules, r.Tidy
  types : ∀ s ∈ g.types, s.toJson.Tidy
    ["className", "highlightColor", "parentType", "fontWeight", "fontStyle"]

theorem tidy (g : Grammar) : g.Tidy where
  document := g.tidy_toJson
  version := rfl
  rules r _ := r.tidy
  types s _ := s.tidy_toJson

/-! ### Round trips -/

/-- The grammars of documents are the well-formed ones. -/
theorem wellFormed_iff {g : Grammar} : g.WellFormed ↔ ∃ d, ofDocument? d = .ok g := by
  constructor
  · exact fun h => ⟨g.toJson, ofDocument?_eq_ok.mpr ⟨check_toJson h, read_toJson h⟩⟩
  · intro h
    obtain ⟨d, h⟩ := h
    exact (wellFormed_of_ofDocument? h).1

/-- The grammar of a document passes the check, and is the grammar of its own document. Its rules keep
those of the first document, and no unknown field and no null is written again. -/
theorem ofDocument?_toJson {d : Json} {g : Grammar} (h : ofDocument? d = .ok g) :
    g.validate = .ok () ∧ ofDocument? g.toJson = .ok g ∧
      (∃ items, d.get? "highlightingRules" = some (.array items) ∧
        List.Forall₂ Rule.Keeps items g.rules) ∧ g.Tidy := by
  obtain ⟨hwell, hkeeps⟩ := wellFormed_of_ofDocument? h
  exact ⟨check_toJson hwell, ofDocument?_eq_ok.mpr ⟨check_toJson hwell, read_toJson hwell⟩, hkeeps,
    g.tidy⟩

/-- A document with nulls, an unknown field, a number for its version and a rule of another kind. -/
def untidyDocument : Json :=
  .object [("description", .null),
    ("highlightingRules", .array [
      .object [("matchType", .string "keyword"), ("name", .string "a"),
        ("tokens", .array [
          .object [("description", .null), ("keyword", .string "k"), ("type", .string "T")]])],
      .object [("matchType", .string "regex"), ("name", .string "b"), ("pattern", .string "p"),
        ("type", .null)],
      .object [("matchType", .bool true), ("name", .string "c"), ("unknown", .null)]]),
    ("types", .array [
      .object [("className", .string "T"), ("fontWeight", .number (.natural 600)),
        ("highlightColor", .string "red"), ("parentType", .string "P")]]),
    ("unknown", .bool true), ("version", .number (.natural 2))]

/-- The grammar of that document. -/
def tidiedGrammar : Grammar where
  version := "2"
  description := none
  reference := none
  rules := [.keyword ⟨"a", false, false, [⟨"k", "T", ""⟩]⟩, .pattern ⟨"b", "p", none, none⟩,
    .other (.object [("matchType", .bool true), ("name", .string "c"), ("unknown", .null)])]
  types := [⟨"T", "red", "P", some (.numeric (.natural 600)), none⟩]
  metadata := none

/-- The grammar of that document is read from its own document. -/
theorem ofDocument?_toJson_tidied : ofDocument? untidyDocument = .ok tidiedGrammar ∧
    tidiedGrammar.validate = .ok () ∧ ofDocument? tidiedGrammar.toJson = .ok tidiedGrammar := by
  have hread : (ofDocument? untidyDocument).toOption.any (fun g => g = tidiedGrammar) := by
    decide +kernel
  obtain ⟨g, hok, heq⟩ := Results.exists_of_any hread
  obtain rfl := of_decide_eq_true heq
  obtain ⟨hvalid, hagain, -⟩ := ofDocument?_toJson hok
  exact ⟨hok, hvalid, hagain⟩

end Grammar

end Annotator
